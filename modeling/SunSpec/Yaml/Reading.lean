import SunSpec.Yaml.Literal
import SunSpec.Yaml.Node.OfTokens
import SunSpec.Yaml.Token.Lexer

/-!
# Reading documents

Nodes read as what a place asks for: a text, a number, a list, a record with named fields, or any
value. A record takes no keys but its own. Where a list or a record is wanted, nothing counts as an
empty one; where something may be missing, so do the ways to write nothing.
-/

namespace SunSpec.Yaml

/-- The root of the only document of a text, if it has one. -/
def Node.ofText (text : String) : Except Fault (Option Node) := do
  Node.ofTokens (← Token.ofText text)

/-- The tags of scalars that have a type of their own. -/
def coreTag (name : String) : Tag := "tag:yaml.org,2002:" ++ name

/-- The name of a tag that a document makes up for itself. -/
def localName? (tag : Tag) : Option String :=
  match tag.toList with
  | ['!'] => some "!"
  | '!' :: rest => some (String.ofList rest)
  | _ => none

namespace Value

/-- The value of a scalar that has a type of its own. -/
def forced (tag : Tag) (text : String) : Except Fault Value :=
  let check (v : Option Value) (wanted : String) : Except Fault Value :=
    match v with
    | some v => .ok v
    | none => .error (.badScalar text wanted)
  if tag = coreTag "bool" then check ((Literal.bool? text).map .bool) "a boolean"
  else if tag = coreTag "int" then
    match (Literal.int? text).filter Literal.isWord128 with
    | some n => Literal.ofInt n
    | none => .error (.badScalar text "an integer")
  else if tag = coreTag "float" then check ((Literal.float? text).map .float) "a float"
  else if tag = coreTag "null" then
    check (if Literal.isNull text then some .null else none) "null"
  else .ok (.string text)

/-- The value of a scalar whose tag does not count. -/
def ofBare (style : ScalarStyle) (text : String) : Except Fault Value :=
  if style = .plain then Literal.value text else .ok (.string text)

/-- The value of a scalar. -/
def ofScalar (tag : Option Tag) (style : ScalarStyle) (text : String) : Except Fault Value :=
  match tag with
  | none => ofBare style text
  | some tag =>
    match localName? tag with
    | some name => (ofBare style text).map (.tagged name)
    | none => forced tag text

/-- A value under the tag that the document gives it. -/
def underTag (tag : Option Tag) (v : Value) : Value :=
  match tag.bind localName? with
  | some name => .tagged name v
  | none => v

/-- The pairs of a mapping, in which no key stands twice. -/
def distinct (seen : List (Value × Value)) : List (Value × Value) → Except Fault Value
  | [] => .ok (.mapping seen.reverse)
  | (k, v) :: rest =>
    if seen.any fun p => same k p.1 then .error (.duplicateKey (quoted k))
    else distinct ((k, v) :: seen) rest

mutual

/-- The value of a node. -/
def ofNode : Node → Except Fault Value
  | .scalar tag style text => ofScalar tag style text
  | .sequence tag items => (ofNodes items).map fun vs => underTag tag (.sequence vs)
  | .mapping tag pairs => do return underTag tag (← distinct [] (← ofPairs pairs))

/-- The values of nodes. -/
def ofNodes : List Node → Except Fault (List Value)
  | [] => .ok []
  | n :: ns => do
    let v ← ofNode n
    return v :: (← ofNodes ns)

/-- The values of pairs of nodes. -/
def ofPairs : List (Node × Node) → Except Fault (List (Value × Value))
  | [] => .ok []
  | p :: ps => do
    let v ← ofPair p
    return v :: (← ofPairs ps)

/-- The values of a pair of nodes. -/
def ofPair : Node × Node → Except Fault (Value × Value)
  | (k, v) => do return (← ofNode k, ← ofNode v)

end

end Value

/-! ## Typed reading -/

/-- A way to read a node. -/
abbrev Reader (α : Type) := Node → Except Fault α

namespace Reader

/-- The text of any scalar. -/
def text : Reader String
  | .scalar _ _ text => .ok text
  | _ => .error (.wrongKind "a string")

/-- A scalar that may stand for a number or a truth value: a plain one, or a literal that says
what it is. -/
def isTyped (tag : Tag) : Node → Bool
  | .scalar _ .plain _ => true
  | .scalar t .literal _ => t == some tag
  | _ => false

/-- A natural number below a bound. -/
def natural (bound : Nat) : Reader Nat := fun node => do
  let s ← text node
  match Literal.natural? s with
  | some n =>
    if isTyped (coreTag "int") node && n < bound then return n
    else throw (.badScalar s "an integer in range")
  | none => throw (.badScalar s "an integer")

/-- A truth value. -/
def flag : Reader Bool := fun node => do
  let s ← text node
  match Literal.bool? s with
  | some b => if isTyped (coreTag "bool") node then return b else throw (.badScalar s "a boolean")
  | none => throw (.badScalar s "a boolean")

/-- Something that may be missing. -/
def optional {α : Type} (r : Reader α) : Reader (Option α) := fun node =>
  match node with
  | .scalar none .plain s =>
    if s.isEmpty || Literal.isNull s then .ok none else (r node).map some
  | .scalar (some tag) .plain s =>
    if tag ≠ coreTag "null" then (r node).map some
    else if Literal.isNull s then .ok none
    else .error (.badScalar s "null")
  | _ => (r node).map some

/-- A list. -/
def list {α : Type} (r : Reader α) : Reader (List α)
  | .sequence _ items => items.mapM r
  | node => if node.isEmpty then .ok [] else .error (.wrongKind "a sequence")

/-- The pairs of a mapping, with any scalar as a key. -/
def pairs : Reader (List (String × Node))
  | .mapping _ ps => ps.mapM fun (k, v) => (text k).map fun k => (k, v)
  | node => if node.isEmpty then .ok [] else .error (.wrongKind "a mapping")

end Reader

/-- A mapping with keys from a given list, each at most once. -/
structure Record where
  fields : List (String × Node)

namespace Record

/-- The mapping of a node, which may have these keys. -/
def ofNode (keys : List String) (node : Node) : Except Fault Record := do
  let fields ← Reader.pairs node
  let check (seen : List String) (field : String × Node) : Except Fault (List String) :=
    if seen.contains field.1 then .error (.duplicateKey field.1)
    else if keys.contains field.1 then .ok (field.1 :: seen)
    else .error (.unknownField field.1)
  let _ ← fields.foldlM check []
  return ⟨fields⟩

/-- A field that must be there. -/
def required {α : Type} (r : Record) (key : String) (read : Reader α) : Except Fault α :=
  match r.fields.lookup key with
  | some node => read node
  | none => .error (.missingField key)

/-- A field that has a value even where it is not there. -/
def withDefault {α : Type} (r : Record) (key : String) (read : Reader α) (default : α) :
    Except Fault α :=
  match r.fields.lookup key with
  | some node => read node
  | none => .ok default

end Record

end SunSpec.Yaml
