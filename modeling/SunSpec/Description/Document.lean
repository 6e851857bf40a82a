import SunSpec.Registry
import SunSpec.Yaml.Reading

/-!
# Description documents

What a description says, before it is held against anything: models as blocks of points, and data
for instances of models. Types are still names and data are still values of the document. Every
part is a record that takes no fields but its own.
-/

namespace SunSpec

open Yaml (Reader Record)

/-- A point as it is described. -/
structure DescribedPoint where
  name : String
  typeName : String
  /-- The length of a string. -/
  len : Option UInt16
  offset : Option UInt16
  defines : List Define
deriving DecidableEq, Repr

/-- A block as it is described. -/
structure DescribedBlock where
  repeating : Bool
  points : List DescribedPoint
deriving DecidableEq, Repr

/-- A model as it is described. -/
structure DescribedModel where
  id : UInt16
  name : String
  blocks : List DescribedBlock
deriving DecidableEq, Repr

/-- Data of one instance, as they are described. -/
structure DescribedData where
  name : String
  modelId : UInt16
  repeats : UInt64
  /-- The whole instance in hexadecimal, in place of values. -/
  raw : Option String
  /-- Values by the name of their point, in ascending order of names; a list gives one value for
  each instance of the repeating block. -/
  values : List (String × Yaml.Value)

/-- A description document. -/
structure Document where
  models : List DescribedModel
  data : List DescribedData

namespace Description

/-- A number of 16 bits. -/
def word16 : Reader UInt16 := fun node => (Reader.natural UInt16.size node).map UInt16.ofNat

/-- A number of 32 bits. -/
def word32 : Reader UInt32 := fun node => (Reader.natural UInt32.size node).map UInt32.ofNat

/-- A number of 64 bits. -/
def word64 : Reader UInt64 := fun node => (Reader.natural UInt64.size node).map UInt64.ofNat

/-- A define. -/
def define : Reader Define := fun node => do
  let r ← Record.ofNode ["name", "value"] node
  return { name := ← r.required "name" Reader.text, value := ← r.required "value" word32 }

/-- A point. -/
def point : Reader DescribedPoint := fun node => do
  let r ← Record.ofNode ["name", "type", "len", "offset", "defines"] node
  return {
    name := ← r.required "name" Reader.text
    typeName := ← r.required "type" Reader.text
    len := ← r.withDefault "len" (Reader.optional word16) none
    offset := ← r.withDefault "offset" (Reader.optional word16) none
    defines := ← r.withDefault "defines" (Reader.list define) [] }

/-- A block. -/
def block : Reader DescribedBlock := fun node => do
  let r ← Record.ofNode ["repeating", "points"] node
  return {
    repeating := ← r.withDefault "repeating" Reader.flag false
    points := ← r.withDefault "points" (Reader.list point) [] }

/-- A model. -/
def model : Reader DescribedModel := fun node => do
  let r ← Record.ofNode ["id", "name", "blocks"] node
  return {
    id := ← r.required "id" word16
    name := ← r.required "name" Reader.text
    blocks := ← r.withDefault "blocks" (Reader.list block) [] }

/-- A value put in its place among sorted names; of two for one name the later one stays. -/
def insertValue (name : String) (v : Yaml.Value) :
    List (String × Yaml.Value) → List (String × Yaml.Value)
  | [] => [(name, v)]
  | (n, w) :: rest =>
    if n < name then (n, w) :: insertValue name v rest
    else if n = name then (name, v) :: rest
    else (name, v) :: (n, w) :: rest

/-- Values by name. -/
def values : Reader (List (String × Yaml.Value)) := fun node => do
  (← Reader.pairs node).foldlM (fun sorted (name, node) => do
    return insertValue name (← Yaml.Value.ofNode node) sorted) []

/-- Data of an instance. -/
def data : Reader DescribedData := fun node => do
  let r ← Record.ofNode ["name", "model", "repeats", "raw", "values"] node
  return {
    name := ← r.required "name" Reader.text
    modelId := ← r.required "model" word16
    repeats := ← r.withDefault "repeats" word64 0
    raw := ← r.withDefault "raw" (Reader.optional Reader.text) none
    values := ← r.withDefault "values" values [] }

/-- A document. -/
def document : Reader Document := fun node => do
  let r ← Record.ofNode ["models", "data"] node
  return {
    models := ← r.withDefault "models" (Reader.list model) []
    data := ← r.withDefault "data" (Reader.list data) [] }

end Description

/-- The document of a text; an empty text describes nothing. -/
def Document.ofText (text : String) : Except Yaml.Fault Document := do
  match ← Yaml.Node.ofText text with
  | some node => Description.document node
  | none => return ⟨[], []⟩

end SunSpec
