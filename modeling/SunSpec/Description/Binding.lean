import SunSpec.Description.Library
import SunSpec.RegisterTable
import SunSpec.Text.Blank

/-!
# Binding data to models

Values of a document become typed values once the model of their instance is known. An integer type
takes integers of its range and nothing else; an enumeration and a bit field also take the name of a
define. No value is ever narrowed.
-/

namespace SunSpec

namespace Point

/-- The integer of a literal, within bounds. -/
def integer? (literal : Yaml.Value) (low high : Int) : Option Int :=
  literal.int64?.filter fun n => low ≤ n && n ≤ high

/-- The value of the define that a literal names, the first of that name. -/
def defineOf? (p : Point) (literal : Yaml.Value) : Option Nat :=
  literal.text?.bind fun name => (p.defines.find? fun d => d.name == name).map (·.value.toNat)

/-- A number of so many bits: that of a literal, or of the define that it names. -/
def word? (p : Point) (literal : Yaml.Value) (bits : Nat) (named : Bool) : Option Nat :=
  match integer? literal 0 (Nat.pow 2 bits - 1 : Nat) with
  | some n => some n.toNat
  | none => if named then (p.defineOf? literal).filter (· < Nat.pow 2 bits) else none

/-- The typed value of a literal, if the type of the point admits it. -/
def literalValue? (p : Point) (literal : Yaml.Value) : Option Value :=
  let word16 (named : Bool) : Option UInt16 := (p.word? literal 16 named).map UInt16.ofNat
  let word32 (named : Bool) : Option UInt32 := (p.word? literal 32 named).map UInt32.ofNat
  let int16 : Option Int16 :=
    (integer? literal Int16.minValue.toInt Int16.maxValue.toInt).map Int16.ofInt
  let int32 : Option Int32 :=
    (integer? literal Int32.minValue.toInt Int32.maxValue.toInt).map Int32.ofInt
  match p.encoding.type with
  | .int16 => int16.map .ofInt16
  | .sunssf => int16.map .ofScaleFactor
  | .uint16 => (word16 false).map .ofUInt16
  | .acc16 => (word16 false).map .ofAcc16
  | .enum16 => (word16 true).map .ofEnum16
  | .bitfield16 => (word16 true).map .ofBitfield16
  | .int32 => int32.map .ofInt32
  | .uint32 => (word32 false).map .ofUInt32
  | .acc32 => (word32 false).map .ofAcc32
  | .bitfield32 => (word32 true).map .ofBitfield32
  | .float32 => literal.float64?.map fun bits => .ofFloat32 (Decimal.narrow bits)
  | .int64 => literal.int64?.map fun n => .ofInt64 (Int64.ofInt n)
  | .uint64 => literal.natural?.map fun n => .ofUInt64 (UInt64.ofNat n)
  | .float64 => literal.float64?.map .ofFloat64
  | .string => literal.text?.map fun s => .ofString s p.encoding.declaredLen
  | .null | .undef => none

/-- The typed value of a literal. -/
def literalValue (p : Point) (literal : Yaml.Value) : Except Fault Value :=
  if p.isSkipped then .error (.unsupportedType p.encoding.type)
  else match p.literalValue? literal with
    | some v => .ok v
    | none => .error (.invalidLiteral p.name literal.quoted p.encoding)

/-- The values that a literal gives a point: one for each member of a list, or one for all
instances. -/
def literalValues (p : Point) (literal : Yaml.Value) : Except Fault (List PointValue) :=
  match literal with
  | .sequence items =>
    items.zipIdx.mapM fun (item, i) => return ⟨p.name, some i, ← p.literalValue item⟩
  | single => return [⟨p.name, none, ← p.literalValue single⟩]

end Point

namespace DescribedData

/-- The point of a name, which the model must have. -/
def pointOf (d : DescribedData) (e : Entry) (name : String) : Except Fault Point :=
  match e.model.point? name with
  | some p => .ok p
  | none => .error (.noSuchPoint d.name e.name name)

/-- The data as typed values. -/
def bind (d : DescribedData) (registry : Registry) : Except Fault DataBlock := do
  let e ← registry.get d.modelId
  let values ← d.values.mapM fun (name, literal) => do
    (← d.pointOf e name).literalValues literal
  return ⟨d.name, d.modelId, d.repeats, values.flatten⟩

/-- The registers of a raw image; blanks between digits do not count. -/
def rawRegisters (d : DescribedData) (raw : String) : Except Fault (List UInt16) :=
  match Hex.decode (Utf8.encodeChars (raw.toList.filter (!isBlank ·))) with
  | .ok bytes => .ok (Registers.ofBytes bytes)
  | .error why => .error (.badImage d.name why)

/-- The registers of an instance, header included. -/
def registers (d : DescribedData) (registry : Registry) : Except Fault (List UInt16) := do
  match d.raw with
  | some raw => d.rawRegisters raw
  | none => (← d.bind registry).encode (← registry.get d.modelId)

end DescribedData

/-- The register table that shows data in their order. -/
def RegisterTable.ofData (registry : Registry) (base : UInt16) (data : List DescribedData) :
    Except Fault RegisterTable := do
  let draft ← data.foldlM (fun (t : TableDraft) d => do return t.push (← d.registers registry))
    (.start base)
  draft.finish

end SunSpec
