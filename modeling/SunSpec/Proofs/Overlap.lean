import SunSpec.Proofs.Acceptance

/-!
# Fields that share registers

Layout keeps every offset behind the start of its block and asks for no more.  An explicit offset
may go back: begin in front of the end of the point before it.  Then fields can share registers,
and a field can stick out of its block, since a block ends with its last point.

This file says that nothing else makes fields meet.  Implied offsets never go back
(`Block.IsLaid.first_eq`); a row of points without one that goes back (`Layout.Forward`) holds its
fields one behind the other (`Layout.Forward.stop_le`, `Layout.PointsPlaced.stop_le_of_forward`);
and fields that lie inside their blocks stay apart because the blocks do
(`Layout.Tiled.pairwise_stop_le`), in each instance of a repeating block
(`Model.LaidOut.instances_apart`).  The theorem says this of each pair of points, and at the end of
models in which no offset goes back.  Behind it stands an accepted model whose fields meet.
-/

namespace SunSpec

/-- The fields of two points share a register. -/
def Point.Meets (p q : Point) : Prop :=
  ∃ n, (p.first ≤ n ∧ n < p.stop) ∧ q.first ≤ n ∧ n < q.stop

lemma Point.not_meets {p q : Point} (behind : p.stop ≤ q.first) : ¬ p.Meets q := by
  rintro ⟨n, ⟨-, lt⟩, le, -⟩
  omega

namespace Block

/-- The field of a point lies inside a block. -/
def Holds (b : Block) (p : Point) : Prop :=
  b.start.toNat ≤ p.first ∧ p.stop ≤ b.start.toNat + b.len.toNat

instance (b : Block) (p : Point) : Decidable (b.Holds p) :=
  inferInstanceAs (Decidable (_ ∧ _))

/-- A point with an implied offset begins where the point before it ends. -/
lemma IsLaid.first_eq {b c : Block} {start : Nat} (h : b.IsLaid start c) {j : Nat}
    {p q s : Point} (hp : c.points[j]? = some p) (hq : c.points[j + 1]? = some q)
    (hs : b.points[j + 1]? = some s) (implied : s.offset = none) : q.first = p.stop := by
  obtain ⟨before, hb⟩ : ∃ before, b.points[j]? = some before := by
    have lt : j < b.points.length := by
      have lt := (List.getElem?_eq_some_iff.1 hp).1
      rwa [h.length_points] at lt
    exact ⟨_, List.getElem?_eq_getElem lt⟩
  obtain ⟨o, ho, origin⟩ := h.point j before hb
  obtain ⟨o', ho', explicit | ⟨-, running⟩⟩ := h.point (j + 1) s hs
  · rw [implied] at explicit
    cases explicit
  · rw [hp] at ho
    rw [hq] at ho'
    cases ho
    cases ho'
    rw [List.take_add_one, hb, Layout.endOf_append] at running
    have begins : before.offsetBehind (Layout.endOf start (b.points.take j)) = o.toNat := by
      obtain explicit | ⟨none, eq⟩ := origin
      · rw [Point.offsetBehind, explicit]
        rfl
      · rw [Point.offsetBehind, none, eq]
        rfl
    have stop : o'.toNat = o.toNat + before.registers := by
      rw [running, ← begins]
      rfl
    exact stop

/-- Only an explicit offset goes back. -/
lemma IsLaid.explicit_of_back {b c : Block} {start : Nat} (h : b.IsLaid start c) {j : Nat}
    {p q : Point} (hp : c.points[j]? = some p) (hq : c.points[j + 1]? = some q)
    (back : q.first < p.stop) :
    ∃ s o, b.points[j + 1]? = some s ∧ s.offset = some o ∧ q.offset = some o := by
  obtain ⟨s, hs⟩ : ∃ s, b.points[j + 1]? = some s := by
    have lt := (List.getElem?_eq_some_iff.1 hq).1
    rw [h.length_points] at lt
    exact ⟨_, List.getElem?_eq_getElem lt⟩
  obtain ⟨o, ho, explicit | ⟨implied, -⟩⟩ := h.point (j + 1) s hs
  · rw [hq] at ho
    cases ho
    exact ⟨s, o, hs, explicit, rfl⟩
  · have follows := h.first_eq hp hq hs implied
    omega

end Block

/-! ## Rows without an offset that goes back -/

namespace Layout

/-- No point of a row begins in front of the end of the point before it. -/
def Forward (ps : List Point) : Prop := ps.IsChain fun p q => p.stop ≤ q.first

instance (ps : List Point) : Decidable (Forward ps) :=
  inferInstanceAs (Decidable (ps.IsChain fun p q => p.stop ≤ q.first))

lemma Forward.stop_le {p q : Point} {mid : List Point} (h : Forward (p :: (mid ++ [q]))) :
    p.stop ≤ q.first := by
  -- the order of neighbours is that of all points, as in a block
  have ordered : (Block.ofPoints (p :: (mid ++ [q])) false).InOrder := h
  exact (List.pairwise_cons.1 ordered.pairwise).1 q (by simp)

lemma PointsPlaced.of_append {start counter next : Nat} {front ps : List Point}
    (h : PointsPlaced start counter (front ++ ps) next) :
    ∃ counter', PointsPlaced start counter' ps next := by
  induction front generalizing counter with
  | nil => exact ⟨counter, h⟩
  | cons p front ih =>
    cases h with
    | cons _ _ rest => exact ih rest

/-- A point ends at or in front of the end of a row in which nothing behind it goes back. -/
lemma PointsPlaced.stop_le_of_forward {start counter next : Nat} {front back : List Point}
    {p : Point} (h : PointsPlaced start counter (front ++ p :: back) next)
    (forward : Forward (p :: back)) : p.stop ≤ next := by
  obtain ⟨counter', rest⟩ := h.of_append
  exact rest.stop_le forward List.mem_cons_self

/-- The blocks of a row stand one behind the other, whatever their points do. -/
lemma Tiled.pairwise_stop_le {first last : Nat} {bs : List Block} (h : Tiled first bs last) :
    bs.Pairwise fun b c => b.start.toNat + b.len.toNat ≤ c.start.toNat := by
  induction h with
  | nil => exact .nil
  | cons head rest ih =>
    refine List.pairwise_cons.2 ⟨?_, ih⟩
    intro c hc
    obtain ⟨n, first_le, -, placed⟩ := rest.exists_placedAt hc
    rw [head.start_eq, placed.start_eq]
    exact first_le

end Layout

namespace Model.LaidOut

variable {m : Model}

lemma start_le (h : m.LaidOut) {b : Block} (hb : b ∈ m.blocks) {p : Point} (hp : p ∈ b.points) :
    b.start.toNat ≤ p.first := by
  obtain ⟨n, -, -, placed⟩ := h.tiled.exists_placedAt hb
  rw [placed.start_eq]
  exact placed.first_le hp

lemma firstDataOffset_le (h : m.LaidOut) {b : Block} (hb : b ∈ m.blocks) {p : Point}
    (hp : p ∈ b.points) : firstDataOffset ≤ p.first := by
  obtain ⟨n, first_le, -, placed⟩ := h.tiled.exists_placedAt hb
  exact first_le.trans (placed.first_le hp)

/-- A point lies inside its block if no point behind it goes back. -/
lemma holds_of_forward (h : m.LaidOut) {b : Block} (hb : b ∈ m.blocks) {front back : List Point}
    {p : Point} (points : b.points = front ++ p :: back) (forward : Layout.Forward (p :: back)) :
    b.Holds p := by
  have mem : p ∈ b.points := by simp [points]
  obtain ⟨n, -, -, placed⟩ := h.tiled.exists_placedAt hb
  have inside := placed.points
  rw [points] at inside
  refine ⟨h.start_le hb mem, ?_⟩
  rw [placed.start_eq]
  exact inside.stop_le_of_forward forward

/-- The field of a point inside a repeating block has ended where a later instance begins. -/
lemma instances_apart (h : m.LaidOut) {b : Block} (hb : b ∈ m.blocks)
    (repeating : b.repeating = true) {p q : Point} (inside : b.Holds p) (hp : p ∈ b.points)
    (hq : q ∈ b.points) {k l : Nat} (lt : k < l) :
    m.position ⟨p, some k⟩ + 2 * p.registers ≤ m.position ⟨q, some l⟩ := by
  have found := h.repeatingBlock?_of_mem hb repeating
  have len := h.repeatLen_of_repeating found
  have next := instance_le m lt
  have behind := h.firstDataOffset_le hb hp
  have start_le := h.start_le hb hq
  obtain ⟨-, stop⟩ := inside
  simp only [position, Option.getD_some, Point.stop] at *
  omega

/-- A field of a block that stands once is in front of the instances of what comes behind it. -/
lemma once_apart (h : m.LaidOut) {b : Block} (hb : b ∈ m.blocks) {p q : Point}
    (hp : p ∈ b.points) (behind : p.stop ≤ q.first) (index : Option Nat) :
    m.position ⟨p, none⟩ + 2 * p.registers ≤ m.position ⟨q, index⟩ := by
  have le := position_le (m := m) none (h.firstDataOffset_le hb hp) behind
  simp only [position, Option.getD_none] at *
  omega

/-- A point of a block in order lies inside it. -/
lemma holds_of_inOrder (h : m.LaidOut) {b : Block} (hb : b ∈ m.blocks) (ordered : b.InOrder)
    {p : Point} (hp : p ∈ b.points) : b.Holds p := by
  obtain ⟨n, -, -, placed⟩ := h.tiled.exists_placedAt hb
  refine ⟨h.start_le hb hp, ?_⟩
  rw [placed.start_eq]
  exact placed.points.stop_le ordered hp

/-- No two points meet where all blocks are in order. -/
lemma pairwise_not_meets (h : m.LaidOut) (ordered : ∀ b ∈ m.blocks, b.InOrder) :
    m.points.Pairwise fun p q => ¬ p.Meets q := by
  refine List.pairwise_flatMap.2 ⟨?_, ?_⟩
  · intro b hb
    exact (ordered b hb).pairwise.imp Point.not_meets
  · refine (h.tiled.pairwise ordered).imp ?_
    intro b c behind p hp q hq
    exact Point.not_meets (behind p hp q hq)

end Model.LaidOut

/-! ## Accepted models -/

/-- **Fields of an accepted model meet only across an offset that goes back.**  No point begins in
front of its block, and an offset that goes back is an explicit one.  A point lies inside its
block, if no point of the block behind it goes back; it does not meet a point of the block behind
it, if neither that point nor one between them goes back; and a point inside its block meets no
point of a later block, and in a repeating block no point of a later instance.  So in a model in
which no offset goes back, all points lie inside their blocks and no two of them meet. -/
theorem Model.fields_apart_of_forward {name : String} {m : Model}
    (accepted : (m.resolve name).fault = none) :
    let r := (m.resolve name).model
    (∀ b ∈ r.blocks, ∀ p ∈ b.points, b.start.toNat ≤ p.first) ∧
    (∀ (k j : Nat) (b c : Block) (p q : Point), m.blocks[k]? = some b → r.blocks[k]? = some c →
      c.points[j]? = some p → c.points[j + 1]? = some q → q.first < p.stop →
        ∃ s o, b.points[j + 1]? = some s ∧ s.offset = some o ∧ q.offset = some o) ∧
    (∀ b ∈ r.blocks, ∀ front p back, b.points = front ++ p :: back →
      Layout.Forward (p :: back) → b.Holds p) ∧
    (∀ b ∈ r.blocks, ∀ front p mid q back, b.points = front ++ p :: (mid ++ q :: back) →
      Layout.Forward (p :: (mid ++ [q])) → ¬ p.Meets q ∧
        ∀ index, r.position ⟨p, index⟩ + 2 * p.registers ≤ r.position ⟨q, index⟩) ∧
    (r.blocks.Pairwise fun b c => ∀ p ∈ b.points, b.Holds p → ∀ q ∈ c.points, ¬ p.Meets q ∧
      ∀ index, r.position ⟨p, none⟩ + 2 * p.registers ≤ r.position ⟨q, index⟩) ∧
    (∀ b ∈ r.blocks, b.repeating = true → ∀ p ∈ b.points, b.Holds p → ∀ q ∈ b.points,
      ∀ k l, k < l → r.position ⟨p, some k⟩ + 2 * p.registers ≤ r.position ⟨q, some l⟩) ∧
    ((∀ b ∈ r.blocks, b.InOrder) → (∀ b ∈ r.blocks, ∀ p ∈ b.points, b.Holds p) ∧
      r.points.Pairwise fun p q => ¬ p.Meets q) := by
  intro r
  have laidOut : r.LaidOut := laidOut_of_resolve accepted
  have fits : m.BlocksFit := (resolve_fault_iff.1 accepted).toBlocksFit
  refine ⟨fun b hb p hp => laidOut.start_le hb hp, ?_, ?_, ?_, ?_, ?_, ?_⟩
  · intro k j b c p q hb hc hp hq back
    obtain ⟨c', hc', isLaid⟩ := (isLaid_of_blocksFit name fits).2 k b hb
    rw [hc] at hc'
    cases hc'
    exact isLaid.explicit_of_back hp hq back
  · intro b hb front p back points forward
    exact laidOut.holds_of_forward hb points forward
  · intro b hb front p mid q back points forward
    have mem : p ∈ b.points := by simp [points]
    have behind := forward.stop_le
    refine ⟨Point.not_meets behind, fun index => ?_⟩
    exact LaidOut.position_le index (laidOut.firstDataOffset_le hb mem) behind
  · refine laidOut.tiled.pairwise_stop_le.imp_of_mem ?_
    intro b c hb hc le p hp inside q hq
    have start_le := laidOut.start_le hc hq
    have behind : p.stop ≤ q.first := inside.2.trans (le.trans start_le)
    exact ⟨Point.not_meets behind, laidOut.once_apart hb hp behind⟩
  · intro b hb repeating p hp inside q hq k l lt
    exact laidOut.instances_apart hb repeating inside hp hq lt
  · intro ordered
    exact ⟨fun b hb p hp => laidOut.holds_of_inOrder hb (ordered b hb) hp,
      laidOut.pairwise_not_meets ordered⟩

theorem Model.fields_apart_of_forward_terrace :
    (terrace.resolve "terrace").fault = none ∧
      let r := (terrace.resolve "terrace").model
      let sf : Point := ⟨"SF", .plain .sunssf, some 3, []⟩
      let nm : Point := ⟨"Nm", .string 5, some 4, []⟩
      let evt : Point := ⟨"Evt", .plain .bitfield32, some 9, []⟩
      let lo : Point := ⟨"Lo", .plain .uint16, some 4, []⟩
      let x : Point := ⟨"X", .plain .uint32, some 5, []⟩
      let y : Point := ⟨"Y", .plain .uint64, some 8, []⟩
      r.blocks = [⟨[sf, nm, evt, lo], false, 2, 3⟩, ⟨[x, y], true, 7, 5⟩] ∧
        ¬ sf.Meets evt ∧ nm.Meets lo ∧ ¬ lo.Meets x ∧ ¬ x.Meets y ∧
        (∃ s o, (terrace.blocks.flatMap Block.points)[3]? = some s ∧ s.offset = some o) ∧
        r.position ⟨x, some 0⟩ + 2 * x.registers ≤ r.position ⟨y, some 1⟩ := by
  have accepted : (terrace.resolve "terrace").fault = none := rfl
  obtain ⟨-, back, inside, apart, later, instances, -⟩ :=
    Model.fields_apart_of_forward accepted
  refine ⟨accepted, ?_⟩
  intro r sf nm evt lo x y
  have blocks : r.blocks = [⟨[sf, nm, evt, lo], false, 2, 3⟩, ⟨[x, y], true, 7, 5⟩] := rfl
  have first : ⟨[sf, nm, evt, lo], false, 2, 3⟩ ∈ r.blocks := blocks ▸ List.mem_cons_self
  have second : ⟨[x, y], true, 7, 5⟩ ∈ r.blocks := by simp [blocks]
  have lo_inside : (⟨[sf, nm, evt, lo], false, 2, 3⟩ : Block).Holds lo :=
    inside _ first [sf, nm, evt] lo [] rfl (by decide)
  have x_inside : (⟨[x, y], true, 7, 5⟩ : Block).Holds x :=
    inside _ second [] x [y] rfl (by decide)
  refine ⟨blocks, ?_, ⟨4, by decide⟩, ?_, ?_, ?_, ?_⟩
  · exact (apart _ first [] sf [nm] evt [lo] rfl (by decide)).1
  · change List.Pairwise _ r.blocks at later
    rw [blocks, List.pairwise_cons] at later
    exact (later.1 _ List.mem_cons_self lo (by simp) lo_inside x List.mem_cons_self).1
  · exact (apart _ second [] x [] y [] rfl (by decide)).1
  · obtain ⟨s, o, hs, explicit, -⟩ := back 0 2 _ _ evt lo rfl (congrArg (·[0]?) blocks) rfl rfl
      (by decide)
    exact ⟨s, o, hs, explicit⟩
  · exact instances _ second rfl x List.mem_cons_self x_inside y (by simp) 0 1 (by decide)

/-! ### Shingles

The second point goes back to where the first one begins, and the next block begins behind it. -/

/-- The model before layout. -/
def shingles : Model := .ofBlocks [
  .ofPoints [.ofEncoding "A" (.plain .uint32), ⟨"B", .plain .uint16, some 3, []⟩] false,
  .ofPoints [.ofEncoding "C" (.plain .uint16)] false]

theorem Model.fields_meet :
    (shingles.resolve "shingles").fault = none ∧
      ∃ first second a b c, (shingles.resolve "shingles").model.blocks = [first, second] ∧
        first.points = [a, b] ∧ second.points = [c] ∧
        a.size ≠ 0 ∧ b.size ≠ 0 ∧ c.size ≠ 0 ∧
        ¬ first.Holds a ∧ a.Meets b ∧ a.Meets c := by
  refine ⟨rfl, _, _, _, _, _, rfl, rfl, rfl, by decide, by decide, by decide, by decide, ?_, ?_⟩
  · exact ⟨3, by decide⟩
  · exact ⟨4, by decide⟩

end SunSpec
