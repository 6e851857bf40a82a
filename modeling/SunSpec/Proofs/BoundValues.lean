import SunSpec.Description.Binding
import SunSpec.Proofs.Reloading
import SunSpec.Proofs.RoundTrip

/-!
# What data bind to

Data give literals by the names of points, and `DescribedData.bind` makes typed values of them.
`Yaml.Value.forInstance` says which literal is meant for an instance: a list has one for each, by
position, and anything else is for all of them.  `BoundTo` says that the values for a point are
those literals and nothing else, and `DescribedData.bind_ok` that data bind every point of theirs
so, whether or not the point has such instances.

Two facts are about what documents can say.  Names of data are distinct (`keyed_of_ofText`), so the
literal of a point is the only one of its name; and encodings of a registry that was built of
documents are canonical, so that a value of a literal has the encoding of its point
(`Point.encoding_of_literalValue`) and is written as it is.
-/

namespace SunSpec

/-- The literal for an instance. -/
def Yaml.Value.forInstance (literal : Yaml.Value) (index : Option Nat) : Option Yaml.Value :=
  match literal with
  | .sequence items => index.bind fun i => items[i]?
  | single => some single

/-- No name is given two values. -/
def DescribedData.Keyed (d : DescribedData) : Prop := (d.values.map Prod.fst).Nodup

/-- Results of a list of steps are those of its members. -/
lemma mem_of_mapM_eq_ok {ε α β : Type} {f : α → Except ε β} {xs : List α} {ys : List β}
    (h : xs.mapM f = .ok ys) :
    (∀ y ∈ ys, ∃ x ∈ xs, f x = .ok y) ∧ ∀ x ∈ xs, ∃ y ∈ ys, f x = .ok y := by
  induction xs generalizing ys with
  | nil =>
    cases h
    exact ⟨List.forall_mem_nil _, List.forall_mem_nil _⟩
  | cons x xs ih =>
    rw [List.mapM_cons] at h
    obtain ⟨y, head, h⟩ := exists_of_bind_eq_ok h
    obtain ⟨rest, tail, eq⟩ := exists_of_bind_eq_ok h
    cases eq
    obtain ⟨sources, results⟩ := ih tail
    constructor
    · refine List.forall_mem_cons.2 ⟨⟨x, List.mem_cons_self, head⟩, fun z hz => ?_⟩
      obtain ⟨w, hw, eq⟩ := sources z hz
      exact ⟨w, List.mem_cons_of_mem x hw, eq⟩
    · refine List.forall_mem_cons.2 ⟨⟨y, List.mem_cons_self, head⟩, fun w hw => ?_⟩
      obtain ⟨z, hz, eq⟩ := results w hw
      exact ⟨z, List.mem_cons_of_mem y hz, eq⟩

/-- What holds at the start of a fold and is kept by its steps holds at its end. -/
lemma holds_of_foldlM_eq_ok {ε α β : Type} {f : β → α → Except ε β} {P : β → Prop}
    (step : ∀ s x t, P s → f s x = .ok t → P t) {xs : List α} {s t : β} (start : P s)
    (h : xs.foldlM f s = .ok t) : P t := by
  induction xs generalizing s with
  | nil =>
    cases h
    exact start
  | cons x xs ih =>
    rw [List.foldlM_cons] at h
    obtain ⟨next, first, h⟩ := exists_of_bind_eq_ok h
    exact ih (step s x next start first) h

/-! ## Literals -/

namespace Point

variable {p : Point} {literal : Yaml.Value} {v : Value}

lemma literalValue?_of_literalValue (h : p.literalValue literal = .ok v) :
    p.literalValue? literal = some v := by
  unfold literalValue at h
  split at h
  · cases h
  · split at h
    · next w found =>
      cases h
      exact found
    · cases h

lemma made_of_literalValue (h : p.literalValue literal = .ok v) : v.Made := by
  have found := literalValue?_of_literalValue h
  obtain ⟨name, ⟨type, len⟩, offset, defines⟩ := p
  cases type with
  | null | undef => cases found
  | _ =>
    obtain ⟨x, -, rfl⟩ := Option.map_eq_some_iff.1 found
    constructor

/-- A value of a literal has the encoding of its point. -/
lemma encoding_of_literalValue (canonical : p.encoding.Canonical)
    (h : p.literalValue literal = .ok v) : v.encoding = p.encoding := by
  have found := literalValue?_of_literalValue h
  obtain ⟨name, ⟨type, len⟩, offset, defines⟩ := p
  cases type with
  | null | undef => cases found
  | string =>
    obtain ⟨s, -, rfl⟩ := Option.map_eq_some_iff.1 found
    obtain ⟨n, rfl⟩ := Option.isSome_iff_exists.1 (canonical.2 rfl)
    rfl
  | _ =>
    obtain ⟨x, -, rfl⟩ := Option.map_eq_some_iff.1 found
    cases len with
    | none => rfl
    | some n => cases canonical.1 rfl

end Point

/-- The values for a point are those of a literal: one that holds for an instance was made of the
literal for that instance, and each such literal has one. -/
structure BoundTo (p : Point) (literal : Yaml.Value) (gs : List PointValue) : Prop where
  literal_of_covers : ∀ g ∈ gs, ∀ index, g.covers p.name index = true →
    ∃ item, literal.forInstance index = some item ∧ p.literalValue item = .ok g.value
  exists_covers : ∀ index item, literal.forInstance index = some item →
    ∃ g ∈ gs, g.covers p.name index = true

namespace Point

variable {p : Point} {literal : Yaml.Value} {gs : List PointValue}

/-- A list gives each of its members to the instance of its position. -/
lemma mem_literalValues_list {items : List Yaml.Value}
    (h : p.literalValues (.sequence items) = .ok gs) {g : PointValue} (hg : g ∈ gs) :
    ∃ i item v, items[i]? = some item ∧ p.literalValue item = .ok v ∧ g = ⟨p.name, some i, v⟩ := by
  obtain ⟨⟨item, i⟩, mem, eq⟩ := (mem_of_mapM_eq_ok h).1 g hg
  obtain ⟨v, value, eq⟩ := exists_of_bind_eq_ok eq
  exact ⟨i, item, v, List.mem_zipIdx_iff_getElem?.1 mem, value, (Except.ok.inj eq).symm⟩

lemma boundTo_list {items : List Yaml.Value} (h : p.literalValues (.sequence items) = .ok gs) :
    BoundTo p (.sequence items) gs := by
  refine ⟨fun g hg index covers => ?_, fun index item found => ?_⟩
  · obtain ⟨i, item, v, at_i, value, rfl⟩ := mem_literalValues_list h hg
    obtain ⟨-, none | same⟩ := PointValue.covers_iff.1 covers
    · cases none
    · have same : some i = index := same
      subst same
      exact ⟨item, at_i, value⟩
  · obtain ⟨i, rfl, at_i⟩ := Option.bind_eq_some_iff.1 found
    obtain ⟨g, hg, eq⟩ := (mem_of_mapM_eq_ok h).2 (item, i) (List.mem_zipIdx_iff_getElem?.2 at_i)
    obtain ⟨v, -, eq⟩ := exists_of_bind_eq_ok eq
    cases eq
    exact ⟨_, hg, PointValue.covers_iff.2 ⟨rfl, .inr rfl⟩⟩

/-- Anything else is given to all instances. -/
lemma boundTo_single {v : Value} (single : ∀ index, literal.forInstance index = some literal)
    (value : p.literalValue literal = .ok v) : BoundTo p literal [⟨p.name, none, v⟩] := by
  constructor
  · exact List.forall_mem_singleton.2 fun index _ => ⟨literal, single index, value⟩
  · intro index item _
    exact ⟨_, List.mem_singleton_self _, PointValue.covers_iff.2 ⟨rfl, .inl rfl⟩⟩

/-- A literal makes values for its point, as they should be. -/
lemma literalValues_ok (h : p.literalValues literal = .ok gs) :
    BoundTo p literal gs ∧ ∀ g ∈ gs, g.point = p.name ∧ g.value.Made := by
  cases literal with
  | sequence items =>
    refine ⟨boundTo_list h, fun g hg => ?_⟩
    obtain ⟨i, item, v, -, value, rfl⟩ := mem_literalValues_list h hg
    exact ⟨rfl, made_of_literalValue value⟩
  | _ =>
    obtain ⟨v, value, eq⟩ := exists_of_bind_eq_ok h
    cases eq
    exact ⟨boundTo_single (fun _ => rfl) value,
      List.forall_mem_singleton.2 ⟨rfl, made_of_literalValue value⟩⟩

end Point

/-- Values of other names do not count. -/
lemma BoundTo.widen {p : Point} {literal : Yaml.Value} {gs all : List PointValue}
    (h : BoundTo p literal gs) (taken : ∀ g ∈ gs, g ∈ all)
    (only : ∀ g ∈ all, g.point = p.name → g ∈ gs) : BoundTo p literal all := by
  constructor
  · intro g hg index covers
    exact h.literal_of_covers g (only g hg (PointValue.covers_iff.1 covers).1) index covers
  · intro index item found
    obtain ⟨g, hg, covers⟩ := h.exists_covers index item found
    exact ⟨g, taken g hg, covers⟩

/-! ## Data -/

lemma Model.name_of_point? {m : Model} {name : String} {p : Point} (h : m.point? name = some p) :
    p ∈ m.points ∧ p.name = name :=
  ⟨List.mem_of_find?_eq_some h, by simpa using List.find?_some h⟩

namespace DescribedData

variable {d : DescribedData} {registry : Registry} {block : DataBlock}

/-- Data of distinct names bind each point of theirs to its literal. -/
lemma bind_ok (keyed : d.Keyed) (h : d.bind registry = .ok block) :
    ∃ e, registry.get? d.modelId = some e ∧ block.repeats = d.repeats ∧
      (∀ g ∈ block.values, g.value.Made) ∧
      ∀ name literal, (name, literal) ∈ d.values →
        ∃ p, e.model.point? name = some p ∧ BoundTo p literal block.values := by
  obtain ⟨e, found, h⟩ := exists_of_bind_eq_ok h
  obtain ⟨lists, mapped, eq⟩ := exists_of_bind_eq_ok h
  cases eq
  obtain ⟨sources, results⟩ := mem_of_mapM_eq_ok mapped
  have parts : ∀ {name literal gs},
      (do (← d.pointOf e name).literalValues literal) = Except.ok gs →
        ∃ p, e.model.point? name = some p ∧ p.literalValues literal = .ok gs := by
    intro name literal gs eq
    obtain ⟨p, named, values⟩ := exists_of_bind_eq_ok eq
    refine ⟨p, ?_, values⟩
    unfold pointOf at named
    cases hp : e.model.point? name with
    | none => simp [hp] at named
    | some q => simpa [hp] using named
  refine ⟨e, Registry.get_eq_ok_iff.1 found, rfl, fun g hg => ?_, fun name literal mem => ?_⟩
  · obtain ⟨gs, hgs, hg⟩ := List.mem_flatten.1 hg
    obtain ⟨entry, -, eq⟩ := sources gs hgs
    obtain ⟨p, -, values⟩ := parts eq
    exact ((Point.literalValues_ok values).2 g hg).2
  · obtain ⟨gs, hgs, eq⟩ := results _ mem
    obtain ⟨p, named, values⟩ := parts eq
    refine ⟨p, named, (Point.literalValues_ok values).1.widen
      (fun g hg => List.mem_flatten.2 ⟨gs, hgs, hg⟩) fun g hg same => ?_⟩
    -- a value of that name was made of the literal of that name
    obtain ⟨hs, hhs, hg⟩ := List.mem_flatten.1 hg
    obtain ⟨⟨name', literal'⟩, mem', eq'⟩ := sources hs hhs
    obtain ⟨q, named', values'⟩ := parts eq'
    have name_eq : name' = name := by
      rw [← (Model.name_of_point? named').2, ← (Model.name_of_point? named).2, ← same]
      exact (((Point.literalValues_ok values').2 g hg).1).symm
    have entry_eq := List.inj_on_of_nodup_map keyed mem' mem name_eq
    cases entry_eq
    rw [eq] at eq'
    cases eq'
    exact hg

/-- Data without a raw image have the registers of what they bind to. -/
lemma registers_of_bind (unimaged : d.raw = none) {regs : List UInt16}
    (h : d.registers registry = .ok regs) {e : Entry} (held : registry.get? d.modelId = some e) :
    ∃ block, d.bind registry = .ok block ∧ block.encode e = .ok regs := by
  unfold registers at h
  simp only [unimaged] at h
  obtain ⟨block, bound, h⟩ := exists_of_bind_eq_ok h
  obtain ⟨e', found, encoded⟩ := exists_of_bind_eq_ok h
  rw [Registry.get_eq_ok_iff, held] at found
  cases found
  exact ⟨block, bound, encoded⟩

end DescribedData

/-! ## Data of documents -/

/-- A field is read from its node, or has its default. -/
lemma Yaml.Record.withDefault_ok {α : Type} {r : Yaml.Record} {key : String}
    {read : Yaml.Reader α} {default a : α} (h : r.withDefault key read default = .ok a) :
    a = default ∨ ∃ node, read node = .ok a := by
  unfold withDefault at h
  split at h
  · exact .inr ⟨_, h⟩
  · exact .inl (Except.ok.inj h).symm

namespace Description

/-- A value that is put among sorted names leaves them sorted. -/
lemma sorted_insertValue (name : String) (v : Yaml.Value) {xs : List (String × Yaml.Value)}
    (sorted : xs.Pairwise fun a b => a.1 < b.1) :
    (insertValue name v xs).Pairwise (fun a b => a.1 < b.1) ∧
      ∀ x ∈ insertValue name v xs, x.1 = name ∨ ∃ y ∈ xs, y.1 = x.1 := by
  induction xs with
  | nil => exact ⟨List.pairwise_singleton _ _, List.forall_mem_singleton.2 (.inl rfl)⟩
  | cons x xs ih =>
    obtain ⟨head, tail⟩ := List.pairwise_cons.1 sorted
    obtain ⟨inserted, names⟩ := ih tail
    obtain ⟨n, w⟩ := x
    unfold insertValue
    have kept : ∀ y ∈ xs, y.1 = name ∨ ∃ z ∈ (n, w) :: xs, z.1 = y.1 :=
      fun y hy => .inr ⟨y, List.mem_cons_of_mem _ hy, rfl⟩
    split
    · next lt =>
      refine ⟨List.pairwise_cons.2 ⟨fun y hy => ?_, inserted⟩,
        List.forall_mem_cons.2 ⟨.inr ⟨_, List.mem_cons_self, rfl⟩, fun y hy => ?_⟩⟩
      · rcases names y hy with same | ⟨z, hz, same⟩
        · rw [same]
          exact lt
        · rw [← same]
          exact head z hz
      · rcases names y hy with same | ⟨z, hz, same⟩
        · exact .inl same
        · exact .inr ⟨z, List.mem_cons_of_mem _ hz, same⟩
    · next not_lt =>
      split
      · next same =>
        subst same
        exact ⟨List.pairwise_cons.2 ⟨head, tail⟩, List.forall_mem_cons.2 ⟨.inl rfl, kept⟩⟩
      · next ne =>
        have lt : name < n := by
          rcases String.le_total n name with le | le
          · exact absurd (String.le_antisymm le (String.not_lt.1 not_lt)) ne
          · by_contra ge
            exact ne (String.le_antisymm (String.not_lt.1 ge) le)
        refine ⟨List.pairwise_cons.2 ⟨List.forall_mem_cons.2 ⟨lt, fun y hy => ?_⟩, sorted⟩,
          List.forall_mem_cons.2 ⟨.inl rfl, List.forall_mem_cons.2
            ⟨.inr ⟨_, List.mem_cons_self, rfl⟩, kept⟩⟩⟩
        exact String.lt_trans lt (head y hy)

lemma sorted_of_values {node : Yaml.Node} {xs : List (String × Yaml.Value)}
    (h : values node = .ok xs) : xs.Pairwise fun a b => a.1 < b.1 := by
  obtain ⟨pairs, -, h⟩ := exists_of_bind_eq_ok h
  refine holds_of_foldlM_eq_ok (fun sorted pair next hs eq => ?_) .nil h
  obtain ⟨v, -, eq⟩ := exists_of_bind_eq_ok eq
  cases eq
  exact (sorted_insertValue pair.1 v hs).1

lemma keyed_of_data {node : Yaml.Node} {d : DescribedData} (h : data node = .ok d) : d.Keyed := by
  obtain ⟨r, -, h⟩ := exists_of_bind_eq_ok h
  obtain ⟨name, -, h⟩ := exists_of_bind_eq_ok h
  obtain ⟨modelId, -, h⟩ := exists_of_bind_eq_ok h
  obtain ⟨repeats, -, h⟩ := exists_of_bind_eq_ok h
  obtain ⟨raw, -, h⟩ := exists_of_bind_eq_ok h
  obtain ⟨xs, read, eq⟩ := exists_of_bind_eq_ok h
  cases eq
  have sorted : xs.Pairwise fun a b => a.1 < b.1 := by
    rcases Yaml.Record.withDefault_ok read with rfl | ⟨node, read⟩
    · exact .nil
    · exact sorted_of_values read
  rw [DescribedData.Keyed, List.Nodup, List.pairwise_map]
  refine sorted.imp fun lt same => ?_
  rw [same] at lt
  exact String.lt_irrefl _ lt

lemma keyed_of_ofText {text : String} {doc : Document} (h : Document.ofText text = .ok doc) :
    ∀ d ∈ doc.data, d.Keyed := by
  obtain ⟨root, -, h⟩ := exists_of_bind_eq_ok h
  cases root with
  | none =>
    cases h
    exact List.forall_mem_nil _
  | some node =>
    obtain ⟨r, -, h⟩ := exists_of_bind_eq_ok h
    obtain ⟨models, -, h⟩ := exists_of_bind_eq_ok h
    obtain ⟨data, read, eq⟩ := exists_of_bind_eq_ok h
    cases eq
    rcases Yaml.Record.withDefault_ok read with rfl | ⟨node, read⟩
    · exact List.forall_mem_nil _
    · unfold Yaml.Reader.list at read
      split at read
      · intro d hd
        obtain ⟨item, -, eq⟩ := (mem_of_mapM_eq_ok read).1 d hd
        exact keyed_of_data eq
      · split at read
        · cases read
          exact List.forall_mem_nil _
        · cases read

end Description

end SunSpec
