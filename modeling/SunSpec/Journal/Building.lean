import SunSpec.Description.Binding
import SunSpec.Journal.Entry

/-!
# What the journal says of descriptions

The entries that tell how descriptions were read, how models were laid out, and how data were
written as registers. They are views of the results: of a library its problems, of a layout pass
its remarks, of a data block its plan. Work that a fault ended has told what came before it.
-/

namespace SunSpec.Journal

/-- A fault that did not end the work. -/
def problem (topic : Topic) (f : Fault) : Entry := ⟨.warn, topic, f.message⟩

/-! ## Documents -/

/-- Of a document. -/
def ofDocument (l : Library) : List Entry :=
  l.problems.map (problem .definition) ++
    [⟨.debug, .definition, s!"Parsed {l.catalogue.size} models and {l.data.length} data blocks " ++
      s!"({l.problems.length} problems)"⟩]

/-- Of a file that holds a document. -/
def ofFile (path : String) (l : Library) : List Entry :=
  ofDocument l ++ [⟨.info, .definition, s!"Loaded {l.catalogue.size} models from {path}"⟩]

/-- Of a library that joins another one. -/
def ofMerge (l other : Library) : List Entry :=
  (l.catalogue.merge other.catalogue).2.map (problem .model)

/-- Of all that is wrong with a library. -/
def ofProblems (l : Library) : List Entry := l.problems.map (problem .command)

/-! ## Layout -/

/-- Of a remark on a model of this name. -/
def ofRemark (model : String) : Remark → Entry
  | .overridden point offset running =>
    ⟨.debug, .resolver,
      s!"{model}.{point}: explicit offset {offset.toNat} overrides running offset {running}"⟩
  | remark@(.oddString ..) =>
    ⟨.warn, .resolver, model ++ ": " ++ (remark.warning?.map Diagnostic.message).getD ""⟩

/-- The words for a model. -/
def modelText (e : SunSpec.Entry) : String := s!"model {e.id.toNat} ({e.name})"

/-- Of a layout pass over the model of an entry. -/
def ofResolution (e : SunSpec.Entry) (r : Resolution) : List Entry :=
  let told := r.remarks.map (ofRemark e.name)
  match r.fault with
  | some _ => told
  | none =>
    told ++ r.warnings.map (fun w => ⟨.warn, .model, s!"{modelText e}: {w.message}"⟩) ++
      [⟨.debug, .model, s!"Resolved {modelText e}: base_len={r.model.baseLen.toNat}, " ++
        s!"len={r.model.len.toNat}"⟩]

/-- Of models that are laid out one after the other, up to the first fault. -/
def ofEntries : List SunSpec.Entry → List Entry
  | [] => []
  | e :: es =>
    let r := e.model.resolve e.name
    ofResolution e r ++ if r.fault.isSome then [] else ofEntries es

/-- Of a catalogue that becomes a registry. -/
def ofBuild (c : Catalogue) : List Entry :=
  ofEntries c.entries ++ match c.build with
    | .ok registry => [⟨.debug, .command, s!"Registry holds {registry.size} models"⟩]
    | .error _ => []

/-! ## Data -/

/-- Of a step of the plan of a data block of this name. -/
def ofStep (block : String) : PlanStep → List Entry
  | .placed p =>
    [⟨.trace, .codec, s!"Encoded {p.value.encoding.display} into {p.bytes.length} bytes"⟩,
      ⟨.trace, .registerMap, s!"{block}.{p.point.name} = {p.value.display} at byte {p.start}"⟩]
  | .leftZero p =>
    [⟨.warn, .registerMap,
      s!"{block}.{p.name}: {p.encoding.display} values cannot be encoded, left as zero"⟩]

/-- Of a data block that is written as an instance of a model. -/
def ofBlock (d : DataBlock) (e : SunSpec.Entry) : List Entry :=
  match d.payloadRegisters e.model with
  | .error _ => []
  | .ok declared => (d.plan e.model declared).steps.toList.flatMap (ofStep d.name)

/-- Of data that are bound to their model and written. -/
def ofData (registry : Registry) (d : DescribedData) : List Entry :=
  match d.raw, registry.get? d.modelId with
  | some _, _ => []
  | none, none => [⟨.debug, .model, s!"no model registered for id {d.modelId.toNat}"⟩]
  | none, some e =>
    match d.bind registry with
    | .ok block => ofBlock block e
    | .error _ => []

/-- Of data that are written one after the other, up to the first fault. -/
def ofImage (registry : Registry) : List DescribedData → List Entry
  | [] => []
  | d :: ds =>
    ofData registry d ++ match d.registers registry with
      | .ok _ => ofImage registry ds
      | .error _ => []

end SunSpec.Journal
