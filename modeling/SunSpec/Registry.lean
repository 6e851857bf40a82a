import SunSpec.Layout

/-!
# Catalogues and registries

A catalogue collects models by id before they are laid out; a registry holds them afterwards. Both
keep their entries in ascending order of ids, each id once, which is part of their types. The first
model of an id stays; another one of the same id is refused.
-/

namespace SunSpec

/-- A model under its id and name. -/
structure Entry where
  id : UInt16
  name : String
  model : Model
deriving DecidableEq, Repr

namespace Entry

/-- Entries in ascending order of ids, each id once. -/
def Ascending (es : List Entry) : Prop := es.Pairwise fun a b => a.id.toNat < b.id.toNat

/-- Lay the model of an entry out. -/
def resolve (e : Entry) : Except Fault Entry :=
  let r := e.model.resolve e.name
  match r.fault with
  | some f => .error f
  | none => .ok { e with model := r.model }

/-- The entry of an id. -/
def find? (es : List Entry) (id : UInt16) : Option Entry := es.find? fun e => e.id == id

/-- An entry put in its place among others of other ids. -/
def insertInto (e : Entry) : List Entry → List Entry
  | [] => [e]
  | x :: xs => if e.id.toNat < x.id.toNat then e :: x :: xs else x :: insertInto e xs

/-- The entries laid out, up to the first fault. -/
def resolveAll : List Entry → Except Fault (List Entry)
  | [] => .ok []
  | e :: es =>
    match e.resolve with
    | .error f => .error f
    | .ok r => (resolveAll es).map (r :: ·)

theorem mem_insertInto {e x : Entry} {es : List Entry} :
    x ∈ insertInto e es ↔ x = e ∨ x ∈ es := by
  induction es with
  | nil => simp [insertInto]
  | cons y ys ih =>
    unfold insertInto
    split
    · simp
    · simp only [List.mem_cons, ih]
      constructor
      · rintro (h | h | h) <;> simp [h]
      · rintro (h | h | h) <;> simp [h]

theorem ascending_insertInto {e : Entry} {es : List Entry} (h : Ascending es)
    (fresh : ∀ x ∈ es, x.id ≠ e.id) : Ascending (insertInto e es) := by
  induction es with
  | nil => simp [insertInto, Ascending]
  | cons y ys ih =>
    obtain ⟨hy, hys⟩ := List.pairwise_cons.1 h
    unfold insertInto
    split
    case isTrue lt =>
      refine List.pairwise_cons.2 ⟨?_, h⟩
      intro x hx
      rcases List.mem_cons.1 hx with rfl | hx
      · exact lt
      · exact Nat.lt_trans lt (hy x hx)
    case isFalse ge =>
      refine List.pairwise_cons.2 ⟨?_, ih hys fun x hx => fresh x (List.mem_cons_of_mem _ hx)⟩
      intro x hx
      rcases mem_insertInto.1 hx with rfl | hx
      · have ne : y.id.toNat ≠ x.id.toNat := fun eq =>
          fresh y List.mem_cons_self (UInt16.toNat_inj.1 eq)
        omega
      · exact hy x hx

theorem find?_eq_none {es : List Entry} {id : UInt16} :
    find? es id = none ↔ ∀ x ∈ es, x.id ≠ id := by
  simp [find?]

theorem id_of_resolve {e r : Entry} (h : e.resolve = .ok r) : r.id = e.id := by
  simp only [resolve] at h
  split at h
  · simp at h
  · injection h with h
    rw [← h]

theorem ids_of_resolveAll {es rs : List Entry} (h : resolveAll es = .ok rs) :
    rs.map Entry.id = es.map Entry.id := by
  induction es generalizing rs with
  | nil =>
    injection h with h
    rw [← h]
  | cons e es ih =>
    unfold resolveAll at h
    split at h
    · simp at h
    · next r hr =>
      cases hs : resolveAll es with
      | error f => simp [hs, Except.map] at h
      | ok rest =>
        simp only [hs, Except.map, Except.ok.injEq] at h
        rw [← h, List.map_cons, List.map_cons, ih hs, id_of_resolve hr]

theorem ascending_of_ids {es rs : List Entry} (h : rs.map Entry.id = es.map Entry.id)
    (asc : Ascending es) : Ascending rs := by
  have key : ∀ xs : List Entry,
      Ascending xs ↔ (xs.map Entry.id).Pairwise fun a b => a.toNat < b.toNat := by
    intro xs
    simp [Ascending, List.pairwise_map]
  exact (key rs).2 (h ▸ (key es).1 asc)

end Entry

/-- Models by id, before layout. -/
structure Catalogue where
  entries : List Entry
  ascending : Entry.Ascending entries

namespace Catalogue

/-- The catalogue without models. -/
def empty : Catalogue := ⟨[], List.Pairwise.nil⟩

/-- The number of models. -/
def size (c : Catalogue) : Nat := c.entries.length

/-- A catalogue without models. -/
def isEmpty (c : Catalogue) : Bool := c.entries.isEmpty

/-- Add a model; an id that is taken is refused. -/
def insert (c : Catalogue) (e : Entry) : Except Fault Catalogue :=
  match h : Entry.find? c.entries e.id with
  | some old => .error (.duplicateModel e.id e.name old.name)
  | none =>
    .ok ⟨Entry.insertInto e c.entries,
      Entry.ascending_insertInto c.ascending (Entry.find?_eq_none.1 h)⟩

/-- Add models one by one; those that are refused leave their faults. -/
def insertAll (c : Catalogue) : List Entry → Catalogue × List Fault
  | [] => (c, [])
  | e :: es =>
    match c.insert e with
    | .ok c' => c'.insertAll es
    | .error f =>
      let (c', fs) := c.insertAll es
      (c', f :: fs)

/-- Add all models of another catalogue, in ascending order of ids. -/
def merge (c other : Catalogue) : Catalogue × List Fault := c.insertAll other.entries

end Catalogue

/-- Models by id, laid out. -/
structure Registry where
  entries : List Entry
  ascending : Entry.Ascending entries

namespace Registry

/-- The registry without models. -/
def empty : Registry := ⟨[], List.Pairwise.nil⟩

/-- The number of models. -/
def size (r : Registry) : Nat := r.entries.length

/-- A registry without models. -/
def isEmpty (r : Registry) : Bool := r.entries.isEmpty

/-- The entry of an id. -/
def get? (r : Registry) (id : UInt16) : Option Entry := Entry.find? r.entries id

/-- An id has an entry. -/
def contains (r : Registry) (id : UInt16) : Bool := (r.get? id).isSome

/-- The entry of an id that must be there. -/
def get (r : Registry) (id : UInt16) : Except Fault Entry :=
  match r.get? id with
  | some e => .ok e
  | none => .error (.unknownModel id)

end Registry

/-- Lay all models out, in ascending order of ids and up to the first fault. -/
def Catalogue.build (c : Catalogue) : Except Fault Registry :=
  match h : Entry.resolveAll c.entries with
  | .error f => .error f
  | .ok entries => .ok ⟨entries, Entry.ascending_of_ids (Entry.ids_of_resolveAll h) c.ascending⟩

end SunSpec
