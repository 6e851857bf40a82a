import Mathlib.Data.List.Dedup
import SunSpec.Description.Library

/-!
# What a library keeps of its documents

An id that is described twice is noticed in two places: within a document, where models are added
one by one, and between documents, where two libraries are merged.  Both go through
`Catalogue.insert`, here as `Catalogue.offer`, which keeps the first entry of an id and leaves one
fault for every other.

`Library.Collects` compares a library with the row of sources that went into it: which entry each
id has, which data there are, how many sources were refused and what else was wrong.  Adding a model
appends to the row (`Collects.addModel`), and merging joins two rows (`Collects.merge`), so the
sources of merged documents are those of all documents in order.  How merges are grouped cannot
matter, since a catalogue is known by what it finds (`Catalogue.eq_of_find?`).
-/

namespace SunSpec

/-! ## Sources -/

/-- What is wrong with a described point: a type that has no name of the catalogue, or a string
without a length. -/
def DescribedPoint.faults (p : DescribedPoint) (model : String) : List Fault :=
  if p.typeName ∉ PointType.all.map PointType.name then [.unknownType model p.name p.typeName]
  else if p.typeName = PointType.string.name ∧ p.len = none then [.missingLength model p.name]
  else []

namespace DescribedModel

/-- What is wrong with the points of a described model. -/
def faults (m : DescribedModel) : List Fault :=
  m.blocks.flatMap fun b => b.points.flatMap fun p => p.faults m.name

/-- The entry that a described model is to have. -/
def toEntry (m : DescribedModel) : Entry := ⟨m.id, m.name, m.toModel.value⟩

end DescribedModel

/-- The fault of an id that is described once more. -/
def Fault.isDuplicate : Fault → Bool
  | .duplicateModel .. => true
  | _ => false

namespace Library

/-- The library of documents, merged in their order. -/
def ofDocuments (ds : List Document) : Library :=
  ds.foldl (fun l d => l.merge (.ofDocument d)) empty

/-- A library that a row of sources and data makes. -/
structure Collects (l : Library) (sources : List DescribedModel) (data : List DescribedData) :
    Prop where
  first : ∀ id, Entry.find? l.catalogue.entries id =
    (sources.find? fun m => m.id == id).map DescribedModel.toEntry
  data_eq : l.data = data
  counted : l.catalogue.size + l.problems.countP Fault.isDuplicate = sources.length
  kept : l.problems.filter (!·.isDuplicate) = sources.flatMap DescribedModel.faults

end Library

/-! ## Points -/

lemma DescribedPoint.problems_encoding (p : DescribedPoint) (model : String) :
    (p.encoding model).problems = p.faults model := by
  unfold encoding faults
  by_cases known : p.typeName ∈ PointType.all.map PointType.name
  · obtain ⟨t, -, name⟩ := List.mem_map.1 known
    rw [if_neg (not_not.2 known), ← name, PointType.ofName_name]
    cases t with
    | string => cases p.len <;> rfl
    | _ => rfl
  · have unnamed : PointType.all.find? (fun t => t.name == p.typeName) = none := by
      rw [List.find?_eq_none]
      intro t ht same
      exact known (List.mem_map.2 ⟨t, ht, beq_iff_eq.1 same⟩)
    have other : p.typeName ≠ PointType.undef.name := by
      intro same
      exact known (same ▸ List.mem_map_of_mem (by decide))
    simp [PointType.ofName, unnamed, other, known]

namespace DescribedModel

lemma problems_toModel (m : DescribedModel) : m.toModel.problems = m.faults := by
  simp only [toModel, faults, List.flatMap_map]
  refine List.flatMap_congr fun b _ => List.flatMap_congr fun p _ => ?_
  exact p.problems_encoding m.name

lemma isDuplicate_of_mem_faults {m : DescribedModel} : ∀ f ∈ m.faults, f.isDuplicate = false := by
  intro f hf
  obtain ⟨b, -, hf⟩ := List.mem_flatMap.1 hf
  obtain ⟨p, -, hf⟩ := List.mem_flatMap.1 hf
  unfold DescribedPoint.faults at hf
  split at hf
  · cases List.mem_singleton.1 hf
    rfl
  · split at hf
    · cases List.mem_singleton.1 hf
      rfl
    · cases hf

end DescribedModel

/-! ## Catalogues -/

namespace Entry

@[simp] lemma find?_nil (id : UInt16) : find? [] id = none := rfl

lemma find?_cons (e : Entry) (es : List Entry) (id : UInt16) :
    find? (e :: es) id = if e.id = id then some e else find? es id := by
  by_cases same : e.id = id <;> simp [find?, same]

/-- An entry that was put among others is found, and so are they. -/
lemma find?_insertInto {e : Entry} {es : List Entry} (fresh : find? es e.id = none)
    (id : UInt16) : find? (insertInto e es) id = (find? es id).or (find? [e] id) := by
  induction es with
  | nil => rfl
  | cons x xs ih =>
    rw [find?_cons] at fresh
    have other : x.id ≠ e.id := by
      intro same
      rw [if_pos same] at fresh
      cases fresh
    rw [if_neg other] at fresh
    unfold insertInto
    split
    · rw [find?_cons, find?_cons e []]
      by_cases same : e.id = id
      · have none : find? (x :: xs) id = none := by
          rw [find?_cons, if_neg (same ▸ other), ← same, fresh]
        rw [if_pos same, if_pos same, none]
        rfl
      · rw [if_neg same, if_neg same, find?_nil, Option.or_none]
    · rw [find?_cons, find?_cons, ih fresh]
      split <;> rfl

lemma length_insertInto (e : Entry) (es : List Entry) :
    (insertInto e es).length = es.length + 1 := by
  induction es with
  | nil => rfl
  | cons x xs ih =>
    unfold insertInto
    split
    · rfl
    · rw [List.length_cons, List.length_cons, ih]

lemma nodup_ids {es : List Entry} (ascending : Ascending es) : (es.map Entry.id).Nodup := by
  rw [List.Nodup, List.pairwise_map]
  refine ascending.imp fun lt same => ?_
  rw [same] at lt
  exact Nat.lt_irrefl _ lt

/-- Of entries with ids of their own, each is the one that is found. -/
lemma find?_eq_some_iff {es : List Entry} (ascending : Ascending es) {id : UInt16} {e : Entry} :
    find? es id = some e ↔ e ∈ es ∧ e.id = id := by
  constructor
  · intro found
    exact ⟨List.mem_of_find?_eq_some found, by simpa using List.find?_some found⟩
  · rintro ⟨mem, rfl⟩
    cases found : find? es e.id with
    | none => exact absurd rfl (find?_eq_none.1 found e mem)
    | some x =>
      have same : x.id = e.id := by simpa using List.find?_some found
      rw [List.inj_on_of_nodup_map (nodup_ids ascending) (List.mem_of_find?_eq_some found) mem same]

end Entry

namespace Catalogue

/-- A catalogue is known by what it finds. -/
lemma eq_of_find? {c c' : Catalogue}
    (same : ∀ id, Entry.find? c.entries id = Entry.find? c'.entries id) : c = c' := by
  have mem : ∀ e, e ∈ c.entries ↔ e ∈ c'.entries := by
    intro e
    have here : Entry.find? c.entries e.id = some e ↔ e ∈ c.entries ∧ e.id = e.id :=
      Entry.find?_eq_some_iff c.ascending
    have there : Entry.find? c'.entries e.id = some e ↔ e ∈ c'.entries ∧ e.id = e.id :=
      Entry.find?_eq_some_iff c'.ascending
    rw [same e.id, there] at here
    simpa using here.symm
  have perm : c.entries.Perm c'.entries :=
    (List.perm_ext_iff_of_nodup (List.Nodup.of_map _ (Entry.nodup_ids c.ascending))
      (List.Nodup.of_map _ (Entry.nodup_ids c'.ascending))).2 mem
  have eq : c.entries = c'.entries := perm.eq_of_pairwise
    (fun a b _ _ lt gt => absurd lt (Nat.lt_asymm gt)) c.ascending c'.ascending
  cases c
  cases c'
  cases eq
  rfl

/-- A catalogue to which an entry is offered, and the fault of an entry that it refuses. -/
def offer (c : Catalogue) (e : Entry) : Catalogue × List Fault :=
  match c.insert e with
  | .ok c' => (c', [])
  | .error f => (c, [f])

/-- The first entry of an id stays; another leaves a fault. -/
lemma offer_cases (c : Catalogue) (e : Entry) :
    (Entry.find? c.entries e.id = none ∧ (c.offer e).1.entries = Entry.insertInto e c.entries ∧
      (c.offer e).2 = []) ∨
    ∃ old, Entry.find? c.entries e.id = some old ∧
      c.offer e = (c, [.duplicateModel e.id e.name old.name]) := by
  unfold offer insert
  split
  · next c' inserted =>
    split at inserted
    · cases inserted
    · next fresh =>
      cases inserted
      exact .inl ⟨fresh, rfl, rfl⟩
  · next f refused =>
    split at refused
    · next old found =>
      cases refused
      exact .inr ⟨old, found, rfl⟩
    · cases refused

lemma find?_offer (c : Catalogue) (e : Entry) (id : UInt16) :
    Entry.find? (c.offer e).1.entries id =
      (Entry.find? c.entries id).or (Entry.find? [e] id) := by
  rcases c.offer_cases e with ⟨fresh, entries, -⟩ | ⟨old, found, eq⟩
  · rw [entries, Entry.find?_insertInto fresh]
  · rw [eq, Entry.find?_cons]
    by_cases same : e.id = id
    · rw [← same, found]
      rfl
    · rw [if_neg same, Entry.find?_nil, Option.or_none]

/-- Every entry is taken in or refused. -/
lemma size_offer (c : Catalogue) (e : Entry) :
    (c.offer e).1.size + (c.offer e).2.length = c.size + 1 := by
  rcases c.offer_cases e with ⟨-, entries, none⟩ | ⟨old, -, eq⟩
  · rw [size, entries, Entry.length_insertInto, none]
    rfl
  · rw [eq]
    rfl

lemma isDuplicate_of_mem_offer {c : Catalogue} {e : Entry} :
    ∀ f ∈ (c.offer e).2, f.isDuplicate = true := by
  intro f hf
  rcases c.offer_cases e with ⟨-, -, none⟩ | ⟨old, -, eq⟩
  · rw [none] at hf
    cases hf
  · rw [eq] at hf
    cases List.mem_singleton.1 hf
    rfl

lemma insertAll_cons (c : Catalogue) (e : Entry) (es : List Entry) :
    c.insertAll (e :: es) = (((c.offer e).1.insertAll es).1,
      (c.offer e).2 ++ ((c.offer e).1.insertAll es).2) := by
  unfold offer
  rw [insertAll]
  cases c.insert e <;> rfl

/-- What is found after a merge is found in the first catalogue, or else in the second. -/
lemma find?_insertAll (c : Catalogue) (es : List Entry) (id : UInt16) :
    Entry.find? (c.insertAll es).1.entries id =
      (Entry.find? c.entries id).or (Entry.find? es id) := by
  induction es generalizing c with
  | nil => exact Option.or_none.symm
  | cons e es ih =>
    have cons : Entry.find? (e :: es) id = (Entry.find? [e] id).or (Entry.find? es id) := by
      rw [Entry.find?_cons, Entry.find?_cons e []]
      split <;> rfl
    rw [insertAll_cons, ih, find?_offer, cons, Option.or_assoc]

lemma size_insertAll (c : Catalogue) (es : List Entry) :
    (c.insertAll es).1.size + (c.insertAll es).2.length = c.size + es.length := by
  induction es generalizing c with
  | nil => rfl
  | cons e es ih =>
    have step := c.size_offer e
    have rest := ih (c.offer e).1
    rw [insertAll_cons, List.length_append, List.length_cons]
    dsimp only
    omega

lemma isDuplicate_of_mem_insertAll {c : Catalogue} {es : List Entry} :
    ∀ f ∈ (c.insertAll es).2, f.isDuplicate = true := by
  induction es generalizing c with
  | nil => simp [insertAll]
  | cons e es ih =>
    rw [insertAll_cons]
    exact List.forall_mem_append.2 ⟨isDuplicate_of_mem_offer, ih⟩

end Catalogue

/-! ## Problems -/

namespace Fault

variable {fs : List Fault}

lemma countP_of_duplicates (h : ∀ f ∈ fs, f.isDuplicate = true) :
    fs.countP isDuplicate = fs.length := List.countP_eq_length.2 h

lemma filter_of_duplicates (h : ∀ f ∈ fs, f.isDuplicate = true) :
    fs.filter (!·.isDuplicate) = [] := by
  rw [List.filter_eq_nil_iff]
  intro f hf
  simp [h f hf]

lemma countP_of_others (h : ∀ f ∈ fs, f.isDuplicate = false) : fs.countP isDuplicate = 0 := by
  rw [List.countP_eq_zero]
  intro f hf
  simp [h f hf]

lemma filter_of_others (h : ∀ f ∈ fs, f.isDuplicate = false) :
    fs.filter (!·.isDuplicate) = fs := by
  rw [List.filter_eq_self]
  intro f hf
  simp [h f hf]

end Fault

/-! ## Libraries -/

namespace Library

lemma addModel_eq (l : Library) (m : DescribedModel) : l.addModel m =
    ⟨(l.catalogue.offer m.toEntry).1, l.data,
      l.problems ++ m.faults ++ (l.catalogue.offer m.toEntry).2⟩ := by
  rw [← m.problems_toModel]
  unfold addModel Catalogue.offer
  show (match l.catalogue.insert m.toEntry with
    | .ok catalogue => _
    | .error f => _) = _
  cases l.catalogue.insert m.toEntry with
  | ok catalogue => simp
  | error f => rfl

lemma merge_eq (l other : Library) : l.merge other =
    ⟨(l.catalogue.insertAll other.catalogue.entries).1, l.data ++ other.data,
      l.problems ++ other.problems ++ (l.catalogue.insertAll other.catalogue.entries).2⟩ := rfl

namespace Collects

variable {l other : Library} {ms ns : List DescribedModel} {xs ys : List DescribedData}

lemma nil : empty.Collects [] [] := ⟨fun _ => rfl, rfl, rfl, rfl⟩

/-- A model that is added stands behind the sources that are there. -/
lemma addModel (h : l.Collects ms xs) (m : DescribedModel) :
    (l.addModel m).Collects (ms ++ [m]) xs := by
  have taken := l.catalogue.size_offer m.toEntry
  have refused : ∀ f ∈ (l.catalogue.offer m.toEntry).2, f.isDuplicate = true :=
    Catalogue.isDuplicate_of_mem_offer
  rw [addModel_eq]
  refine ⟨fun id => ?_, h.data_eq, ?_, ?_⟩
  · have last : Entry.find? [m.toEntry] id =
        ([m].find? fun m => m.id == id).map DescribedModel.toEntry := by
      show ([m.toEntry].find? fun e => e.id == id) = _
      rw [← List.map_singleton, List.find?_map]
      rfl
    rw [Catalogue.find?_offer, h.first, last, List.find?_append, Option.map_or]
  · have counted := h.counted
    rw [List.countP_append, List.countP_append, List.length_append,
      Fault.countP_of_others m.isDuplicate_of_mem_faults, Fault.countP_of_duplicates refused]
    dsimp only [List.length_singleton]
    omega
  · rw [List.filter_append, List.filter_append, h.kept,
      Fault.filter_of_others m.isDuplicate_of_mem_faults, Fault.filter_of_duplicates refused]
    simp

/-- The sources of merged libraries stand behind each other. -/
lemma merge (h : l.Collects ms xs) (h' : other.Collects ns ys) :
    (l.merge other).Collects (ms ++ ns) (xs ++ ys) := by
  have taken := l.catalogue.size_insertAll other.catalogue.entries
  have refused : ∀ f ∈ (l.catalogue.insertAll other.catalogue.entries).2, f.isDuplicate = true :=
    Catalogue.isDuplicate_of_mem_insertAll
  rw [merge_eq]
  refine ⟨fun id => ?_, ?_, ?_, ?_⟩
  · rw [Catalogue.find?_insertAll, h.first, h'.first, List.find?_append, Option.map_or]
  · rw [h.data_eq, h'.data_eq]
  · have counted := h.counted
    have counted' := h'.counted
    rw [List.countP_append, List.countP_append, List.length_append,
      Fault.countP_of_duplicates refused]
    simp only [Catalogue.size] at *
    omega
  · rw [List.filter_append, List.filter_append, h.kept, h'.kept,
      Fault.filter_of_duplicates refused, List.append_nil, List.flatMap_append]

lemma ofDocument (d : Document) : (ofDocument d).Collects d.models d.data := by
  have added : ∀ (ns ms : List DescribedModel) (l : Library), l.Collects ms [] →
      (ns.foldl Library.addModel l).Collects (ms ++ ns) [] := by
    intro ns
    induction ns with
    | nil =>
      intro ms l h
      rwa [List.append_nil]
    | cons n ns ih =>
      intro ms l h
      rw [List.foldl_cons, List.append_cons]
      exact ih _ _ (h.addModel n)
  have all := added d.models [] empty nil
  exact ⟨all.first, rfl, all.counted, all.kept⟩

/-- A library of documents collects the sources and the data of all of them, in order. -/
lemma ofDocuments (ds : List Document) :
    (ofDocuments ds).Collects (ds.flatMap (·.models)) (ds.flatMap (·.data)) := by
  have merged : ∀ (ds : List Document) (l : Library) (ms : List DescribedModel)
      (xs : List DescribedData), l.Collects ms xs →
      (ds.foldl (fun l d => l.merge (.ofDocument d)) l).Collects
        (ms ++ ds.flatMap (·.models)) (xs ++ ds.flatMap (·.data)) := by
    intro ds
    induction ds with
    | nil =>
      intro l ms xs h
      simpa using h
    | cons d ds ih =>
      intro l ms xs h
      rw [List.foldl_cons, List.flatMap_cons, List.flatMap_cons, ← List.append_assoc,
        ← List.append_assoc]
      exact ih _ _ _ (h.merge (ofDocument d))
  exact merged ds empty [] [] nil

/-- A catalogue has one entry for each id that is described. -/
lemma size_eq (h : l.Collects ms xs) :
    l.catalogue.size = (ms.map DescribedModel.id).dedup.length := by
  have ids := Entry.nodup_ids l.catalogue.ascending
  have mem : ∀ id, id ∈ l.catalogue.entries.map Entry.id ↔ id ∈ (ms.map (·.id)).dedup := by
    intro id
    rw [List.mem_dedup, ← not_iff_not]
    have here : Entry.find? l.catalogue.entries id = none ↔ ∀ e ∈ l.catalogue.entries, e.id ≠ id :=
      Entry.find?_eq_none
    rw [h.first, Option.map_eq_none_iff, List.find?_eq_none] at here
    simpa using here.symm
  have perm := (List.perm_ext_iff_of_nodup ids (List.nodup_dedup _)).2 mem
  rw [← perm.length_eq, List.length_map]
  rfl

end Collects

/-- How merges are grouped changes neither models nor data, nor how much is refused. -/
lemma merge_assoc (a b c : Library) :
    ((a.merge b).merge c).catalogue = (a.merge (b.merge c)).catalogue ∧
      ((a.merge b).merge c).data = (a.merge (b.merge c)).data ∧
      ((a.merge b).merge c).problems.length = (a.merge (b.merge c)).problems.length := by
  have same : ((a.merge b).merge c).catalogue = (a.merge (b.merge c)).catalogue := by
    refine Catalogue.eq_of_find? fun id => ?_
    simp only [merge_eq, Catalogue.find?_insertAll, Option.or_assoc]
  refine ⟨same, List.append_assoc _ _ _, ?_⟩
  -- what is not taken in is refused, whatever the grouping
  have ab := a.catalogue.size_insertAll b.catalogue.entries
  have bc := b.catalogue.size_insertAll c.catalogue.entries
  have ab_c := (a.merge b).catalogue.size_insertAll c.catalogue.entries
  have a_bc := a.catalogue.size_insertAll (b.merge c).catalogue.entries
  have size := congrArg Catalogue.size same
  simp only [merge_eq, List.length_append, Catalogue.size] at *
  omega

end Library

/-! ## Registries -/

lemma Entry.find?_resolveAll {es rs : List Entry} (h : resolveAll es = .ok rs) (id : UInt16) :
    find? rs id = (find? es id).bind fun e => e.resolve.toOption := by
  induction es generalizing rs with
  | nil =>
    cases h
    rfl
  | cons e es ih =>
    unfold resolveAll at h
    cases hr : e.resolve with
    | error f => simp [hr] at h
    | ok r =>
      cases hs : resolveAll es with
      | error f => simp [hr, hs, Except.map] at h
      | ok rest =>
        simp only [hr, hs, Except.map, Except.ok.injEq] at h
        subst h
        rw [find?_cons, find?_cons, id_of_resolve hr, ih hs]
        split
        · rw [Option.bind_some, hr]
          rfl
        · rfl

lemma Catalogue.build_eq_ok_iff {c : Catalogue} {registry : Registry} :
    c.build = .ok registry ↔ Entry.resolveAll c.entries = .ok registry.entries := by
  unfold build
  split
  · next f stopped =>
    rw [stopped]
    exact ⟨fun h => (by cases h), fun h => (by cases h)⟩
  · next entries resolved =>
    constructor
    · intro same
      cases same
      exact resolved
    · intro same
      have eq : entries = registry.entries := Except.ok.inj (resolved.symm.trans same)
      cases registry
      cases eq
      rfl

/-- **Merged documents lose nothing without a fault, and how they are grouped does not matter.**
Each id has the entry of the first source that describes it, in the catalogue and, laid out, in a
registry that is built of it.  All data are there in order; every source that did not come first has
left a fault of its own; and all other faults of all sources, refused ones among them, are kept in
order.  Three libraries make the same catalogue and the same data however they are merged, and leave
as many faults. -/
theorem Library.merging_keeps_first (ds : List Document) :
    let l := ofDocuments ds
    let sources := ds.flatMap (·.models)
    (∀ id, Entry.find? l.catalogue.entries id =
      (sources.find? fun m => m.id == id).map DescribedModel.toEntry) ∧
    (∀ registry, l.catalogue.build = .ok registry → ∀ id, registry.get? id =
      (sources.find? fun m => m.id == id).bind fun m => m.toEntry.resolve.toOption) ∧
    l.data = ds.flatMap (·.data) ∧
    l.problems.countP Fault.isDuplicate + (sources.map (·.id)).dedup.length = sources.length ∧
    l.problems.filter (!·.isDuplicate) = sources.flatMap DescribedModel.faults ∧
    ∀ a b c : Library,
      ((a.merge b).merge c).catalogue = (a.merge (b.merge c)).catalogue ∧
      ((a.merge b).merge c).data = (a.merge (b.merge c)).data ∧
      ((a.merge b).merge c).problems.length = (a.merge (b.merge c)).problems.length := by
  intro l sources
  have collects : l.Collects sources (ds.flatMap (·.data)) := .ofDocuments ds
  refine ⟨collects.first, ?_, collects.data_eq, ?_, collects.kept, merge_assoc⟩
  · intro registry built id
    have resolved := Catalogue.build_eq_ok_iff.1 built
    show Entry.find? registry.entries id = _
    rw [Entry.find?_resolveAll resolved, collects.first, Option.bind_map]
    rfl
  · have counted := collects.counted
    rw [collects.size_eq] at counted
    exact (Nat.add_comm _ _).trans counted

/-! ### Two documents

The first describes an id twice, and once with a type that nobody knows.  The second describes the
same id again, with a string that has no length, and one more. -/

/-- A described model of one block. -/
def describedModel (id : UInt16) (name : String) (points : List DescribedPoint) : DescribedModel :=
  ⟨id, name, [⟨false, points⟩]⟩

/-- The documents. -/
def twoDocuments : List Document := [
  ⟨[describedModel 7 "meter" [⟨"A", "uint16", none, none, []⟩],
    describedModel 7 "again" [⟨"B", "float128", none, none, []⟩]], []⟩,
  ⟨[describedModel 7 "later" [⟨"Nm", "string", none, none, []⟩],
    describedModel 1 "common" [⟨"DA", "uint16", none, none, []⟩]],
    [⟨"roof", 1, 0, none, []⟩]⟩]

/-- The registry of these documents. -/
def twoRegistry : Registry where
  entries := [
    ⟨1, "common", ⟨[⟨[⟨"DA", .plain .uint16, some 3, []⟩], false, 1, 3⟩], 1, 1⟩⟩,
    ⟨7, "meter", ⟨[⟨[⟨"A", .plain .uint16, some 3, []⟩], false, 1, 3⟩], 1, 1⟩⟩]
  ascending := by simp [Entry.Ascending]

theorem Library.merging_keeps_first_two :
    (ofDocuments twoDocuments).catalogue.build = .ok twoRegistry ∧
      (twoRegistry.get? 7).map Entry.name = some "meter" ∧
      (ofDocuments twoDocuments).problems.countP Fault.isDuplicate = 2 ∧
      (ofDocuments twoDocuments).problems.filter (!·.isDuplicate) =
        [.unknownType "again" "B" "float128", .missingLength "later" "Nm"] := by
  have built : (ofDocuments twoDocuments).catalogue.build = .ok twoRegistry := by rfl
  obtain ⟨-, found, -, counted, kept, -⟩ := Library.merging_keeps_first twoDocuments
  refine ⟨built, ?_, ?_, kept.trans (by decide)⟩
  · rw [found twoRegistry built 7]
    rfl
  · exact Nat.add_right_cancel (counted.trans (by decide : _ = 2 + 2))

end SunSpec
