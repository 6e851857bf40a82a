import SunSpec.Description.Document
import SunSpec.Files

/-!
# Libraries of descriptions

The models and the data of several documents together. What is wrong with a single model does not
keep the rest from being used: an unknown type leaves a point that is skipped, a string without a
length is empty, and of two models with one id the first stays. Each leaves a fault among the
problems of the library.
-/

namespace SunSpec

/-- Something, with what was wrong with it. -/
structure Checked (α : Type) where
  value : α
  problems : List Fault

namespace DescribedPoint

/-- The encoding of a point of a model of this name. -/
def encoding (p : DescribedPoint) (model : String) : Checked Encoding :=
  match PointType.ofName p.typeName with
  | .undef =>
    ⟨.plain .undef, if p.typeName = PointType.undef.name then []
      else [.unknownType model p.name p.typeName]⟩
  | .string =>
    match p.len with
    | some n => ⟨.string n, []⟩
    | none => ⟨.string 0, [.missingLength model p.name]⟩
  | t => ⟨.plain t, []⟩

/-- The point that is described. -/
def toPoint (p : DescribedPoint) (model : String) : Checked Point :=
  let e := p.encoding model
  ⟨⟨p.name, e.value, p.offset, p.defines⟩, e.problems⟩

end DescribedPoint

namespace DescribedModel

/-- The model that is described, not laid out. -/
def toModel (m : DescribedModel) : Checked Model :=
  let blocks := m.blocks.map fun b => (b.repeating, b.points.map fun p => p.toPoint m.name)
  ⟨.ofBlocks (blocks.map fun (repeating, points) => .ofPoints (points.map Checked.value) repeating),
    blocks.flatMap fun (_, points) => points.flatMap Checked.problems⟩

end DescribedModel

/-- Models and data of descriptions. -/
structure Library where
  catalogue : Catalogue
  data : List DescribedData
  /-- What was wrong, in the order in which it was noticed. -/
  problems : List Fault

namespace Library

/-- The library without descriptions. -/
def empty : Library := ⟨.empty, [], []⟩

/-- With another model. -/
def addModel (l : Library) (m : DescribedModel) : Library :=
  let model := m.toModel
  match l.catalogue.insert ⟨m.id, m.name, model.value⟩ with
  | .ok catalogue => { l with catalogue, problems := l.problems ++ model.problems }
  | .error f => { l with problems := l.problems ++ model.problems ++ [f] }

/-- The library of one document. -/
def ofDocument (d : Document) : Library :=
  { d.models.foldl addModel empty with data := d.data }

/-- The library of one document, as text. -/
def ofText (text : String) : Except Fault Library :=
  match Document.ofText text with
  | .ok d => .ok (ofDocument d)
  | .error f => .error (.malformedDocument f.message)

/-- The library of a file. -/
def ofFile (f : SourceFile) : Except Fault Library :=
  match f.text with
  | .ok text => ofText text
  | .error why => .error (.unreadableFile f.path why)

/-- Two libraries together; where both have a model of one id, that of the first stays. -/
def merge (l other : Library) : Library :=
  let (catalogue, duplicates) := l.catalogue.merge other.catalogue
  ⟨catalogue, l.data ++ other.data, l.problems ++ other.problems ++ duplicates⟩

end Library

end SunSpec
