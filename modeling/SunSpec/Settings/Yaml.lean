import SunSpec.Settings.Setting
import SunSpec.Yaml.Reading

/-!
# Settings in YAML

A mapping, or nothing. Any scalar can be a name, and of a name that stands twice the last one
counts. A value under a tag that the document makes up for itself is no setting. Integers may be
longer than in other documents.
-/

namespace SunSpec

/-- The setting of a value that is a scalar. -/
def Setting.ofYaml : Yaml.Value → Except Yaml.Fault Setting
  | .null => .ok .nothing
  | .bool b => .ok (.flag b)
  | .int n => .ok (.integer n)
  | .float bits => .ok (.real bits)
  | .string s => .ok (.text s)
  | .tagged .. | .sequence _ | .mapping _ => .error (.wrongKind "a setting")

/-- A scalar that is read as a number if it looks like one. -/
def Yaml.Node.mayBeInteger (tag : Option Yaml.Tag) (style : Yaml.ScalarStyle) : Bool :=
  match tag with
  | none => style == .plain
  | some tag => tag == Yaml.coreTag "int"

/-- The setting of a scalar. -/
def Setting.ofScalar (tag : Option Yaml.Tag) (style : Yaml.ScalarStyle) (text : String) :
    Except Yaml.Fault Setting :=
  match (Yaml.Literal.int? text).filter Yaml.Literal.isWord128 with
  | some n =>
    if Yaml.Node.mayBeInteger tag style then .ok (.integer n)
    else Yaml.Value.ofScalar tag style text >>= Setting.ofYaml
  | none => Yaml.Value.ofScalar tag style text >>= Setting.ofYaml

/-- A collection has no tag of its own. -/
def Yaml.refuseLocal (tag : Option Yaml.Tag) : Except Yaml.Fault Unit :=
  if (tag.bind Yaml.localName?).isSome then .error (.wrongKind "a setting") else .ok ()

mutual

/-- The setting of a node. -/
def Setting.ofNode : Yaml.Node → Except Yaml.Fault Setting
  | .scalar tag style text => Setting.ofScalar tag style text
  | .sequence tag items => do
    Yaml.refuseLocal tag
    return .list (← Setting.ofNodes items)
  | .mapping tag pairs => do
    Yaml.refuseLocal tag
    return .table (Layer.ofList (← Layer.ofPairs pairs))

/-- The settings of nodes. -/
def Setting.ofNodes : List Yaml.Node → Except Yaml.Fault (List Setting)
  | [] => .ok []
  | n :: ns => do
    let s ← Setting.ofNode n
    return s :: (← Setting.ofNodes ns)

/-- The named settings of pairs. -/
def Layer.ofPairs : List (Yaml.Node × Yaml.Node) → Except Yaml.Fault (List (String × Setting))
  | [] => .ok []
  | p :: ps => do
    let entry ← Layer.ofPair p
    return entry :: (← Layer.ofPairs ps)

/-- The named setting of a pair. -/
def Layer.ofPair : Yaml.Node × Yaml.Node → Except Yaml.Fault (String × Setting)
  | (k, v) => do return (← Yaml.Reader.text k, ← Setting.ofNode v)

end

/-- The layer of a text in YAML. -/
def Layer.ofYaml (text : String) : Except Yaml.Fault Layer := do
  match ← Yaml.Node.ofText text with
  | none => return []
  | some (.mapping _ pairs) => return Layer.ofList (← Layer.ofPairs pairs)
  | some node => if node.isEmpty then return [] else throw (.wrongKind "a mapping")

end SunSpec
