import SunSpec.Description.Document
import SunSpec.Report.Csv
import SunSpec.Yaml.Outline

/-!
# Exported descriptions

The models of a registry as a description document, with every offset written out, or as one
comma-separated row for each point.
-/

namespace SunSpec

namespace DescribedPoint

/-- The description of a point. -/
def ofPoint (p : Point) : DescribedPoint :=
  ⟨p.name, p.encoding.type.name, p.encoding.len, p.offset, p.defines⟩

end DescribedPoint

namespace DescribedModel

/-- The description of a model. -/
def ofEntry (e : Entry) : DescribedModel :=
  ⟨e.id, e.name, e.model.blocks.map fun b => ⟨b.repeating, b.points.map .ofPoint⟩⟩

end DescribedModel

namespace Export

open Yaml (Outline)

/-- A field with a number, if there is one. -/
def numberField (key : String) (n : Option UInt16) : List (String × Outline) :=
  (n.map fun n => (key, .number n.toNat)).toList

/-- A define as a record. -/
def define (d : Define) : Outline :=
  .record [("name", .text d.name), ("value", .number d.value.toNat)]

/-- A point as a record. -/
def point (p : DescribedPoint) : Outline :=
  .record ([("name", .text p.name), ("type", .text p.typeName)] ++ numberField "len" p.len ++
    numberField "offset" p.offset ++
    if p.defines.isEmpty then [] else [("defines", .list (p.defines.map define))])

/-- A block as a record. -/
def block (b : DescribedBlock) : Outline :=
  .record [("repeating", .flag b.repeating), ("points", .list (b.points.map point))]

/-- A model as a record. -/
def model (m : DescribedModel) : Outline :=
  .record [("id", .number m.id.toNat), ("name", .text m.name),
    ("blocks", .list (m.blocks.map block))]

/-- The models of a registry as a description document. -/
def yaml (r : Registry) : String :=
  (Outline.record [("models", .list (r.entries.map fun e => model (.ofEntry e)))]).print

/-- The names of the columns. -/
def columns : List String :=
  ["model_id", "model", "block", "repeating", "point", "type", "len", "offset", "defines"]

/-- A number that may be missing, as a field. -/
def optional (n : Option UInt16) : String := (n.map fun n => toString n.toNat).getD ""

/-- The row of a point of a block. -/
def row (e : Entry) (number : Nat) (b : Block) (p : Point) : List String :=
  [toString e.id.toNat, e.name, toString number, toString b.repeating, p.name,
    p.encoding.type.name, optional p.encoding.len, optional p.offset,
    "|".intercalate (p.defines.map fun d => s!"{d.name}={d.value.toNat}")]

/-- The rows of a model. -/
def rows (e : Entry) : List (List String) :=
  e.model.blocks.zipIdx.flatMap fun (b, i) => b.points.map (row e i b)

/-- The models of a registry as one row for each point. -/
def csv (r : Registry) : String := Csv.table columns (r.entries.flatMap rows)

end Export

end SunSpec
