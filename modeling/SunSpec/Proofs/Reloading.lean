import SunSpec.Description.Export
import SunSpec.Proofs.Merging
import SunSpec.Proofs.Relayout

/-!
# Reading an exported registry back

An export writes types as names and every offset as a number.  A name stands for a type alone, so
the way back invents the length of a string that has none and forgets the length of anything else:
an encoding survives if its length says what its type says, `Encoding.Canonical`.  Encodings that
come from documents are canonical and layout keeps encodings, so those of a built registry are
(`Registry.canonical_of_built`).

Then a description has the points and blocks of its model (`DescribedModel.content_ofEntry`), and
layout makes of them what it made of the model, since the model is already laid out
(`Model.resolve_congr`, `Model.resolve_again`).
-/

namespace SunSpec

/-- Strings declare a length, and nothing else does. -/
def Encoding.Canonical (e : Encoding) : Prop := e.len.isSome = true ↔ e.type = .string

/-- Every point of the model has a canonical encoding. -/
def Model.Canonical (m : Model) : Prop := ∀ p ∈ m.points, p.encoding.Canonical

/-- The models of a registry as one document. -/
def Registry.describe (r : Registry) : Document := ⟨r.entries.map .ofEntry, []⟩

/-! ## Canonical encodings -/

lemma Encoding.canonical_plain {t : PointType} (h : t ≠ .string) : (plain t).Canonical := by
  constructor
  · intro some
    cases some
  · intro string
    exact absurd string h

lemma Encoding.canonical_string (n : UInt16) : (string n).Canonical :=
  ⟨fun _ => rfl, fun _ => rfl⟩

lemma DescribedPoint.canonical_encoding (p : DescribedPoint) (model : String) :
    (p.encoding model).value.Canonical := by
  unfold encoding
  cases ht : PointType.ofName p.typeName with
  | string =>
    cases p.len with
    | some n => exact Encoding.canonical_string n
    | none => exact Encoding.canonical_string 0
  | _ => exact Encoding.canonical_plain (by decide)

lemma DescribedModel.canonical_toModel (m : DescribedModel) : m.toModel.value.Canonical := by
  intro p hp
  simp only [toModel, Model.ofBlocks, Model.points, List.map_map, List.flatMap_map,
    List.mem_flatMap, Function.comp_apply, Block.ofPoints, List.mem_map] at hp
  obtain ⟨b, -, described, -, rfl⟩ := hp
  exact described.canonical_encoding m.name

lemma Model.Canonical.resolve {m : Model} (h : m.Canonical) (name : String) :
    (m.resolve name).model.Canonical := by
  intro p hp
  have bare : p.bare ∈ m.points.map Point.bare := by
    rw [← points_resolve name m]
    exact List.mem_map_of_mem hp
  obtain ⟨q, hq, same⟩ := List.mem_map.1 bare
  have encoding : q.encoding = p.encoding := by
    show q.bare.encoding = p.bare.encoding
    rw [same]
  rw [← encoding]
  exact h q hq

/-! ## Entries of a built registry -/

lemma Entry.resolve_eq_ok_iff {e r : Entry} : e.resolve = .ok r ↔
    (e.model.resolve e.name).fault = none ∧
      r = { e with model := (e.model.resolve e.name).model } := by
  unfold resolve
  cases hf : (e.model.resolve e.name).fault with
  | some f => simp [hf]
  | none => simp [hf, eq_comm]

/-- What a registry holds was described by a source and laid out. -/
lemma Library.Collects.exists_source {l : Library} {ms : List DescribedModel}
    {xs : List DescribedData} (h : l.Collects ms xs) {r : Registry}
    (built : l.catalogue.build = .ok r) {e : Entry} (he : e ∈ r.entries) :
    ∃ m ∈ ms, m.toEntry.resolve = .ok e := by
  have found : Entry.find? r.entries e.id = some e :=
    (Entry.find?_eq_some_iff r.ascending).2 ⟨he, rfl⟩
  rw [Entry.find?_resolveAll (Catalogue.build_eq_ok_iff.1 built), h.first, Option.bind_eq_some_iff]
    at found
  obtain ⟨x, source, resolved⟩ := found
  obtain ⟨m, first, rfl⟩ := Option.map_eq_some_iff.1 source
  refine ⟨m, List.mem_of_find?_eq_some first, ?_⟩
  cases hr : m.toEntry.resolve with
  | error f => simp [hr, Except.toOption] at resolved
  | ok r => simpa [hr, Except.toOption] using resolved

/-- Encodings of a registry that was built of documents are canonical. -/
lemma Registry.canonical_of_built {ds : List Document} {r : Registry}
    (built : (Library.ofDocuments ds).catalogue.build = .ok r) {e : Entry} (he : e ∈ r.entries) :
    e.model.Canonical := by
  obtain ⟨m, -, resolved⟩ := (Library.Collects.ofDocuments ds).exists_source built he
  obtain ⟨-, rfl⟩ := Entry.resolve_eq_ok_iff.1 resolved
  exact m.canonical_toModel.resolve m.name

/-! ## Descriptions of what is there -/

lemma DescribedPoint.toPoint_ofPoint {p : Point} (h : p.encoding.Canonical) (model : String) :
    (ofPoint p).toPoint model = ⟨p, []⟩ := by
  obtain ⟨name, ⟨type, len⟩, offset, defines⟩ := p
  unfold toPoint encoding ofPoint
  simp only [PointType.ofName_name]
  unfold Encoding.Canonical at h
  cases len with
  | some n =>
    have string : type = .string := h.1 rfl
    subst string
    rfl
  | none =>
    cases type with
    | string => cases h.2 rfl
    | _ => rfl

/-- A described model has the blocks it was described from, and nothing is wrong with it. -/
lemma DescribedModel.content_ofEntry {e : Entry} (h : e.model.Canonical) :
    (ofEntry e).toModel.value.blocks.map Block.content = e.model.blocks.map Block.content ∧
      (ofEntry e).toModel.problems = [] := by
  have points : ∀ b ∈ e.model.blocks, ∀ p ∈ b.points,
      (DescribedPoint.ofPoint p).toPoint e.name = ⟨p, []⟩ := by
    intro b hb p hp
    exact DescribedPoint.toPoint_ofPoint (h p (List.mem_flatMap_of_mem hb hp)) e.name
  constructor
  · simp only [toModel, ofEntry, Model.ofBlocks, List.map_map]
    refine List.map_congr_left fun b hb => ?_
    have same : b.points.map (fun p => ((DescribedPoint.ofPoint p).toPoint e.name).value) =
        b.points := by
      rw [List.map_congr_left fun p hp => congrArg Checked.value (points b hb p hp)]
      exact List.map_id' _
    simpa only [Block.content, Block.ofPoints, Function.comp_def, List.map_map, Prod.mk.injEq,
      true_and] using same
  · simp only [toModel, ofEntry, List.map_map, List.flatMap_map, Function.comp_apply]
    rw [List.flatMap_eq_nil_iff]
    intro b hb
    rw [List.flatMap_eq_nil_iff]
    intro p hp
    rw [points b hb p hp]

/-- A description of an entry that was laid out is laid out to that entry. -/
lemma DescribedModel.resolve_ofEntry {source e : Entry} (resolved : source.resolve = .ok e)
    (h : e.model.Canonical) : (ofEntry e).toEntry.resolve = .ok e := by
  obtain ⟨accepted, rfl⟩ := Entry.resolve_eq_ok_iff.1 resolved
  have again := Model.resolve_again source.name source.model
  have same := Model.resolve_congr source.name (content_ofEntry h).1
    (by rw [again]; exact accepted)
  rw [again] at same
  refine Entry.resolve_eq_ok_iff.2 ⟨?_, ?_⟩
  · show ((ofEntry _).toModel.value.resolve source.name).fault = none
    rw [same, accepted]
  · show _ = Entry.mk source.id source.name ((ofEntry _).toModel.value.resolve source.name).model
    rw [same]

namespace Registry

variable {r : Registry}

/-- Where every entry is described as it is, the whole registry is. -/
lemma build_describe
    (each : ∀ e ∈ r.entries, (DescribedModel.ofEntry e).toEntry.resolve = .ok e) :
    (Library.ofDocument r.describe).catalogue.build = .ok r := by
  have ids : (r.entries.map fun e => (DescribedModel.ofEntry e).toEntry).map Entry.id =
      r.entries.map Entry.id := by
    rw [List.map_map]
    rfl
  -- the models are described in ascending order of their ids, which is how a catalogue keeps them
  have kept : (Library.ofDocument r.describe).catalogue =
      ⟨r.entries.map fun e => (DescribedModel.ofEntry e).toEntry,
        Entry.ascending_of_ids ids r.ascending⟩ := by
    refine Catalogue.eq_of_find? fun id => ?_
    rw [(Library.Collects.ofDocument r.describe).first]
    show ((r.entries.map DescribedModel.ofEntry).find? fun m => m.id == id).map
      DescribedModel.toEntry = (r.entries.map _).find? fun e => e.id == id
    rw [List.find?_map, List.find?_map, Option.map_map]
    rfl
  have all : ∀ es : List Entry,
      (∀ e ∈ es, (DescribedModel.ofEntry e).toEntry.resolve = .ok e) →
      Entry.resolveAll (es.map fun e => (DescribedModel.ofEntry e).toEntry) = .ok es := by
    intro es
    induction es with
    | nil => exact fun _ => rfl
    | cons e es ih =>
      intro h
      obtain ⟨head, rest⟩ := List.forall_mem_cons.1 h
      simp only [List.map_cons, Entry.resolveAll, head, ih rest, Except.map]
  rw [Catalogue.build_eq_ok_iff, kept]
  exact all r.entries each

/-- Ids of a registry differ, so a document of canonical models has no faults. -/
lemma problems_describe (canonical : ∀ e ∈ r.entries, e.model.Canonical) :
    (Library.ofDocument r.describe).problems = [] := by
  have collects := Library.Collects.ofDocument r.describe
  have ids : r.describe.models.map DescribedModel.id = r.entries.map Entry.id := by
    rw [describe, List.map_map]
    rfl
  have counted := collects.counted
  rw [collects.size_eq, ids, (Entry.nodup_ids r.ascending).dedup, ← ids, List.length_map] at counted
  have others : (Library.ofDocument r.describe).problems.filter (!·.isDuplicate) = [] := by
    rw [collects.kept, List.flatMap_eq_nil_iff]
    intro m hm
    obtain ⟨e, he, rfl⟩ := List.mem_map.1 hm
    rw [← DescribedModel.problems_toModel]
    exact (DescribedModel.content_ofEntry (canonical e he)).2
  have none : (Library.ofDocument r.describe).problems.countP Fault.isDuplicate = 0 := by omega
  rw [List.countP_eq_zero] at none
  rw [List.filter_eq_nil_iff] at others
  refine List.eq_nil_iff_forall_not_mem.2 fun f hf => ?_
  exact others f hf (by simpa using none f hf)

/-- The exported text is that description, written out. -/
lemma yaml_eq (r : Registry) : Export.yaml r =
    (Yaml.Outline.record [("models", .list (r.describe.models.map Export.model))]).print := by
  rw [describe, List.map_map]
  rfl

end Registry

/-- **An exported registry reloads to itself.**  For every registry that is built of documents, the
document of its entries has an offset for every point; converting it finds nothing wrong, and
building it gives the registry again, in every part.  So does the exported text, if it is read as
the document that was written. -/
theorem Registry.build_exported (ds : List Document) (r : Registry)
    (built : (Library.ofDocuments ds).catalogue.build = .ok r) :
    let l := Library.ofDocument r.describe
    l.problems = [] ∧ l.catalogue.build = .ok r ∧
    (∀ m ∈ r.describe.models, ∀ b ∈ m.blocks, ∀ p ∈ b.points, p.offset ≠ none) ∧
    (Document.ofText (Export.yaml r) = .ok r.describe →
      Library.ofText (Export.yaml r) = .ok l) := by
  intro l
  have canonical : ∀ e ∈ r.entries, e.model.Canonical := fun e he => canonical_of_built built he
  refine ⟨problems_describe canonical, build_describe fun e he => ?_, ?_, ?_⟩
  · obtain ⟨m, -, resolved⟩ := (Library.Collects.ofDocuments ds).exists_source built he
    exact DescribedModel.resolve_ofEntry resolved (canonical e he)
  · intro m hm b hb p hp
    obtain ⟨e, he, rfl⟩ := List.mem_map.1 hm
    obtain ⟨c, hc, rfl⟩ := List.mem_map.1 hb
    obtain ⟨q, hq, rfl⟩ := List.mem_map.1 hp
    obtain ⟨n, -, -, placed⟩ := (laidOut_of_build built he).tiled.exists_placedAt hc
    obtain ⟨o, offset⟩ := placed.exists_offset hq
    show q.offset ≠ none
    simp [offset]
  · intro read
    unfold Library.ofText
    rw [read]

/-! ### A described heater

One offset is given, behind a gap; one type is unknown, one string has no length, and the string of
the repeating block ends in the middle of a register. -/

/-- The document. -/
def heater : Document :=
  ⟨[⟨64001, "heater", [
    ⟨false, [⟨"A", "uint16", some 4, none, []⟩, ⟨"B", "float128", none, none, []⟩,
      ⟨"Nm", "string", none, none, []⟩, ⟨"St", "enum16", none, some 10, [⟨"OFF", 1⟩]⟩]⟩,
    ⟨true, [⟨"T", "int16", none, none, []⟩, ⟨"Lb", "string", some 5, none, []⟩]⟩]⟩], []⟩

/-- Its model, laid out. -/
def heaterEntry : Entry :=
  ⟨64001, "heater", ⟨[
    ⟨[⟨"A", .plain .uint16, some 3, []⟩, ⟨"B", .plain .undef, some 4, []⟩,
      ⟨"Nm", .string 0, some 4, []⟩, ⟨"St", .plain .enum16, some 10, [⟨"OFF", 1⟩]⟩], false, 8, 3⟩,
    ⟨[⟨"T", .plain .int16, some 11, []⟩, ⟨"Lb", .string 5, some 12, []⟩], true, 4, 11⟩], 8, 12⟩⟩

/-- The registry of it. -/
def heaterRegistry : Registry := ⟨[heaterEntry], List.pairwise_singleton _ _⟩

theorem Registry.build_exported_heater :
    (Library.ofDocuments [heater]).catalogue.build = .ok heaterRegistry ∧
      (Library.ofDocument heater).problems =
        [.unknownType "heater" "B" "float128", .missingLength "heater" "Nm"] ∧
      (Library.ofDocument heaterRegistry.describe).problems = [] ∧
      (Library.ofDocument heaterRegistry.describe).catalogue.build = .ok heaterRegistry := by
  have built : (Library.ofDocuments [heater]).catalogue.build = .ok heaterRegistry := by rfl
  obtain ⟨problems, again, -⟩ := Registry.build_exported [heater] heaterRegistry built
  exact ⟨built, by decide, problems, again⟩

/-- A point that stands once. -/
def meterPoint : Point := ⟨"A", .plain .uint16, some 3, []⟩

/-- A model of this point alone. -/
def meterEntry : Entry := ⟨7, "m", ⟨[⟨[meterPoint], false, 1, 3⟩], 1, 1⟩⟩

/-- The registry of it. -/
def meterRegistry : Registry := ⟨[meterEntry], List.pairwise_singleton _ _⟩

-- its exported text is read as the document that was written
example : (Document.ofText (Export.yaml meterRegistry)).toOption.map
    (fun d => (d.models, d.data.isEmpty)) = some (meterRegistry.describe.models, true) := by
  decide +kernel

end SunSpec
