import Mathlib.Data.List.Chain
import Mathlib.Tactic.Common
import SunSpec.Registry

/-!
# The geometry that layout leaves behind

`Model.resolve` makes one pass and reports a fault or none.  This file says what stands after a
pass without a fault: `Model.LaidOut`, in which every point has an offset that is not in front of
its block (`Layout.PointsPlaced`), the blocks follow each other without a gap (`Layout.Tiled`),
only the last may repeat, and the two lengths of the model are those of its blocks.
`laidOut_of_resolve` and `laidOut_of_build` derive it once; readers and writers of model instances
take every fact about positions from here and never open the pass.

Layout admits explicit offsets in any order behind the start of a block.  `Block.InOrder` singles
out the blocks whose points follow each other, and `Block.PlacedAt.field_le` is what it buys: each
field lies inside its own block.
-/

namespace SunSpec

namespace Point

/-- Offset of the first register of a point, 0 where none has been found. -/
def first (p : Point) : Nat := p.offset.elim 0 UInt16.toNat

/-- Offset behind the last register of a point. -/
def stop (p : Point) : Nat := p.first + p.registers

lemma first_of_offset {p : Point} {o : UInt16} (h : p.offset = some o) : p.first = o.toNat := by
  simp [first, h]

lemma size_le_registers (p : Point) : p.size ≤ 2 * p.registers := by
  simp only [size, registers, Encoding.registers]
  omega

lemma positionOf_of_offset {p : Point} {o : UInt16} (h : p.offset = some o) (b : Block)
    (cursor : Nat) : b.positionOf p cursor = 2 * (p.first - b.start.toNat) := by
  simp [Block.positionOf, h, first]

end Point

/-- Every point begins at or behind the end of the point before it. -/
def Block.InOrder (b : Block) : Prop := b.points.IsChain fun p q => p.stop ≤ q.first

instance (b : Block) : Decidable b.InOrder :=
  inferInstanceAs (Decidable (b.points.IsChain fun p q => p.stop ≤ q.first))

/-- No point begins in front of the end of any point before it. -/
lemma Block.InOrder.pairwise {b : Block} (h : b.InOrder) :
    b.points.Pairwise fun p q => p.stop ≤ q.first := by
  have step : Trans (fun p q : Point => p.stop ≤ q.first) (fun p q : Point => p.stop ≤ q.first)
      (fun p q : Point => p.stop ≤ q.first) :=
    ⟨fun pq qr => by simp only [Point.stop] at *; omega⟩
  exact List.isChain_iff_pairwise.1 h

namespace Layout

/-! ## Points of a block -/

/-- Points that have offsets, none of them in front of `start`; `next` is the offset behind the
last of them, or `counter` where there is none. -/
inductive PointsPlaced (start : Nat) : Nat → List Point → Nat → Prop
  | nil (n : Nat) : PointsPlaced start n [] n
  | cons {counter next : Nat} {p : Point} {ps : List Point} {o : UInt16}
      (offset : p.offset = some o) (start_le : start ≤ p.first)
      (rest : PointsPlaced start p.stop ps next) : PointsPlaced start counter (p :: ps) next

/-- A register number that fits 16 bits is kept as it is. -/
lemma toNat_of_register {model : String} {n : Nat} {o : UInt16} (h : register model n = .ok o) :
    o.toNat = n := by
  unfold register at h
  split at h
  · cases h
    exact UInt16.toNat_ofNat_of_lt' ‹_›
  · cases h

/-- What the place of a point is: its explicit offset, or the running one. -/
lemma placePoint_ok {model : String} {start counter : Nat} {p : Point} {placed : Placed}
    (h : placePoint model start counter p = .ok placed) :
    ∃ o, placed.point = { p with offset := some o } ∧ placed.next = o.toNat + p.registers ∧
      (p.offset = some o ∧ start ≤ o.toNat ∨ p.offset = none ∧ o.toNat = counter) := by
  unfold placePoint at h
  cases hp : p.offset with
  | some o =>
    simp only [hp] at h
    split at h
    · cases h
    · cases h
      refine ⟨o, ?_, rfl, .inl ⟨rfl, by omega⟩⟩
      cases p
      simp_all
  | none =>
    simp only [hp] at h
    cases hr : register model counter with
    | error f => simp [hr, Except.map] at h
    | ok o =>
      have running : o.toNat = counter := toNat_of_register hr
      simp only [hr, Except.map, Except.ok.injEq] at h
      subst h
      exact ⟨o, rfl, by rw [running], .inr ⟨rfl, running⟩⟩

lemma pointsPlaced_of_placePoints {model : String} {start counter : Nat} {ps : List Point}
    (le : start ≤ counter) (h : (placePoints model start counter ps).fault = none) :
    PointsPlaced start counter (placePoints model start counter ps).items
      (placePoints model start counter ps).next := by
  induction ps generalizing counter with
  | nil => exact .nil counter
  | cons p ps ih =>
    unfold placePoints at h ⊢
    cases hp : placePoint model start counter p with
    | error f => simp [hp] at h
    | ok placed =>
      obtain ⟨o, point, next, origin⟩ := placePoint_ok hp
      have first : placed.point.first = o.toNat := by rw [point]; rfl
      have stop : placed.point.stop = placed.next := by rw [next, Point.stop, first, point]; rfl
      have start_le : start ≤ o.toNat := by omega
      simp only [hp] at h ⊢
      refine .cons (by rw [point]) (by omega) ?_
      rw [stop]
      exact ih (by omega) h

namespace PointsPlaced

variable {start counter next : Nat} {ps : List Point}

lemma le_next (h : PointsPlaced start counter ps next) (le : start ≤ counter) : start ≤ next := by
  induction h with
  | nil n => exact le
  | cons _ start_le _ ih => exact ih (by simp only [Point.stop]; omega)

lemma exists_offset (h : PointsPlaced start counter ps next) {p : Point} (hp : p ∈ ps) :
    ∃ o, p.offset = some o := by
  induction h with
  | nil => cases hp
  | cons offset _ _ ih =>
    rcases List.mem_cons.1 hp with rfl | hp
    · exact ⟨_, offset⟩
    · exact ih hp

lemma start_le (h : PointsPlaced start counter ps next) {p : Point} (hp : p ∈ ps) :
    start ≤ p.first := by
  induction h with
  | nil => cases hp
  | cons _ start_le _ ih =>
    rcases List.mem_cons.1 hp with rfl | hp
    · exact start_le
    · exact ih hp

/-- Points in order end at or in front of the end of the last. -/
lemma stop_le (h : PointsPlaced start counter ps next)
    (ordered : ps.IsChain fun p q => p.stop ≤ q.first) {p : Point} (hp : p ∈ ps) :
    p.stop ≤ next := by
  induction h generalizing p with
  | nil => cases hp
  | @cons _ _ q ps _ offset _ rest ih =>
    rcases List.mem_cons.1 hp with rfl | hp
    · cases rest with
      | nil => exact le_rfl
      | @cons _ _ r _ _ _ _ _ =>
        have behind : p.stop ≤ r.first := (List.isChain_cons_cons.1 ordered).1
        have inside : r.stop ≤ _ := ih ordered.tail List.mem_cons_self
        simp only [Point.stop] at *
        omega
    · exact ih ordered.tail hp

end PointsPlaced

end Layout

/-! ## Blocks of a model -/

/-- The block begins at offset `first`, and its length reaches to the end of its last point. -/
structure Block.PlacedAt (b : Block) (first : Nat) : Prop where
  start_eq : b.start.toNat = first
  points : Layout.PointsPlaced first first b.points (first + b.len.toNat)

namespace Layout

/-- Blocks that follow each other from offset `first` to offset `last`. -/
inductive Tiled : Nat → List Block → Nat → Prop
  | nil (n : Nat) : Tiled n [] n
  | cons {first last : Nat} {b : Block} {bs : List Block} (head : b.PlacedAt first)
      (rest : Tiled (first + b.len.toNat) bs last) : Tiled first (b :: bs) last

lemma placeBlock_ok {model : String} {counter : Nat} {b : Block}
    (h : (placeBlock model counter b).fault = none) :
    (placeBlock model counter b).block.PlacedAt counter ∧
      (placeBlock model counter b).next = counter + (placeBlock model counter b).block.len.toNat ∧
      (placeBlock model counter b).block.repeating = b.repeating := by
  unfold placeBlock at h ⊢
  cases hs : register model counter with
  | error f => simp [hs] at h
  | ok start =>
    cases hf : (placePoints model counter counter b.points).fault with
    | some f => simp [hs, hf] at h
    | none =>
      have points := pointsPlaced_of_placePoints le_rfl hf
      have le := points.le_next le_rfl
      cases hl : register model ((placePoints model counter counter b.points).next - counter) with
      | error f => simp [hs, hf, hl] at h
      | ok len =>
        have len_eq := toNat_of_register hl
        have next : (placePoints model counter counter b.points).next = counter + len.toNat := by
          omega
        simp only [hf, hl]
        exact ⟨⟨toNat_of_register hs, next ▸ points⟩, next, trivial⟩

lemma tiled_of_placeBlocks {model : String} {counter : Nat} {bs : List Block}
    (h : (placeBlocks model counter bs).fault = none) :
    Tiled counter (placeBlocks model counter bs).items (placeBlocks model counter bs).next ∧
      (placeBlocks model counter bs).items.map (·.repeating) = bs.map (·.repeating) := by
  induction bs generalizing counter with
  | nil => exact ⟨.nil counter, rfl⟩
  | cons b bs ih =>
    unfold placeBlocks at h ⊢
    cases hb : (placeBlock model counter b).fault with
    | some f => simp [hb] at h
    | none =>
      obtain ⟨placed, next, repeating⟩ := placeBlock_ok hb
      simp only [hb] at h ⊢
      obtain ⟨rest, flags⟩ := ih h
      rw [next] at rest flags ⊢
      exact ⟨.cons placed rest, by rw [List.map_cons, List.map_cons, repeating, flags]⟩

@[simp] lemma totalLen_nil : totalLen [] = 0 := rfl

@[simp] lemma totalLen_cons (b : Block) (bs : List Block) :
    totalLen (b :: bs) = b.len.toNat + totalLen bs := rfl

lemma totalLen_append (bs cs : List Block) :
    totalLen (bs ++ cs) = totalLen bs + totalLen cs := by
  induction bs with
  | nil => simp
  | cons b bs ih => simp [ih, Nat.add_assoc]

namespace Tiled

variable {first last : Nat} {bs cs : List Block}

lemma last_eq (h : Tiled first bs last) : last = first + totalLen bs := by
  induction h with
  | nil n => simp
  | cons _ _ ih => simp [ih, Nat.add_assoc]

lemma of_append (h : Tiled first (bs ++ cs) last) :
    Tiled first bs (first + totalLen bs) ∧ Tiled (first + totalLen bs) cs last := by
  induction bs generalizing first with
  | nil => exact ⟨.nil first, h⟩
  | cons b bs ih =>
    cases h with
    | cons head rest =>
      obtain ⟨front, back⟩ := ih rest
      rw [totalLen_cons, ← Nat.add_assoc]
      exact ⟨.cons head front, back⟩

/-- Every block of a row stands somewhere between its ends. -/
lemma exists_placedAt (h : Tiled first bs last) {b : Block} (hb : b ∈ bs) :
    ∃ n, first ≤ n ∧ n + b.len.toNat ≤ last ∧ b.PlacedAt n := by
  induction h with
  | nil => cases hb
  | cons head rest ih =>
    have last_eq := rest.last_eq
    rcases List.mem_cons.1 hb with rfl | hb
    · exact ⟨_, le_rfl, by omega, head⟩
    · obtain ⟨n, first_le, le_last, placed⟩ := ih hb
      exact ⟨n, by omega, le_last, placed⟩

end Tiled

end Layout

namespace Block.PlacedAt

variable {b : Block} {first : Nat}

lemma exists_offset (h : b.PlacedAt first) {p : Point} (hp : p ∈ b.points) :
    ∃ o, p.offset = some o := h.points.exists_offset hp

lemma first_le (h : b.PlacedAt first) {p : Point} (hp : p ∈ b.points) : first ≤ p.first :=
  h.points.start_le hp

lemma positionOf_eq (h : b.PlacedAt first) {p : Point} (hp : p ∈ b.points) (cursor : Nat) :
    b.positionOf p cursor = 2 * (p.first - first) := by
  obtain ⟨o, offset⟩ := h.exists_offset hp
  rw [Point.positionOf_of_offset offset, h.start_eq]

/-- A field of a block whose points are in order lies inside the block, its last register too. -/
lemma field_le (h : b.PlacedAt first) (ordered : b.InOrder) {p : Point} (hp : p ∈ b.points) :
    2 * (p.first - first) + 2 * p.registers ≤ b.unit := by
  have le := h.first_le hp
  have stop := h.points.stop_le ordered hp
  simp only [Point.stop, unit] at *
  omega

end Block.PlacedAt

/-- A point of an earlier block has ended where a point of a later one begins. -/
lemma Layout.Tiled.pairwise {first last : Nat} {bs : List Block} (h : Tiled first bs last)
    (ordered : ∀ b ∈ bs, b.InOrder) :
    bs.Pairwise fun b c => ∀ p ∈ b.points, ∀ q ∈ c.points, p.stop ≤ q.first := by
  induction h with
  | nil => exact .nil
  | @cons first last b bs head rest ih =>
    refine List.pairwise_cons.2 ⟨fun c hc p hp q hq => ?_,
      ih fun c hc => ordered c (List.mem_cons_of_mem _ hc)⟩
    obtain ⟨n, first_le, -, placed⟩ := rest.exists_placedAt hc
    have stop := head.points.stop_le (ordered b List.mem_cons_self) hp
    have behind := placed.first_le hq
    omega

/-! ## Models -/

namespace Model

/-- The blocks that stand once. -/
def fixedBlocks (m : Model) : List Block := m.blocks.filter (!·.repeating)

/-- The block that may stand several times. -/
def repeatingBlock? (m : Model) : Option Block := m.blocks.find? (·.repeating)

/-- What a pass without a fault leaves behind. -/
structure LaidOut (m : Model) : Prop where
  tiled : Layout.Tiled firstDataOffset m.blocks (firstDataOffset + m.len.toNat)
  once : ∀ b ∈ m.blocks.dropLast, b.repeating = false
  baseLen_eq : m.baseLen.toNat = Layout.totalLen m.fixedBlocks

theorem laidOut_of_resolve {name : String} {m : Model} (h : (m.resolve name).fault = none) :
    (m.resolve name).model.LaidOut := by
  unfold resolve at h ⊢
  cases hm : Layout.misplaced? m.blocks with
  | some k => simp [hm] at h
  | none =>
    cases hp : (Layout.placeBlocks name firstDataOffset m.blocks).fault with
    | some f => simp [hm, hp] at h
    | none =>
      obtain ⟨tiled, flags⟩ := Layout.tiled_of_placeBlocks hp
      cases hb : Layout.register name (Layout.totalLen
          ((Layout.placeBlocks name firstDataOffset m.blocks).items.filter (!·.repeating))) with
      | error f => simp [hm, hp, hb] at h
      | ok baseLen =>
        cases hl : Layout.register name
            (Layout.totalLen (Layout.placeBlocks name firstDataOffset m.blocks).items) with
        | error f => simp [hm, hp, hb, hl] at h
        | ok len =>
          simp only [hp, hb, hl]
          refine ⟨?_, ?_, Layout.toNat_of_register hb⟩
          · rw [Layout.toNat_of_register hl, ← tiled.last_eq]
            exact tiled
          · -- the flags are those of the blocks that were laid out
            have single : ∀ r ∈ (m.blocks.map (·.repeating)).dropLast, r = false := by
              simpa [Layout.misplaced?, ← List.map_dropLast] using hm
            rw [← flags, ← List.map_dropLast] at single
            exact fun b hb => single b.repeating (List.mem_map_of_mem hb)

namespace LaidOut

variable {m : Model}

/-- The blocks that stand once come first; at most one stands behind them. -/
lemma blocks_eq (h : m.LaidOut) : m.blocks = m.fixedBlocks ++ m.repeatingBlock?.toList := by
  have once := h.once
  unfold fixedBlocks repeatingBlock?
  rcases List.eq_nil_or_concat' m.blocks with nil | ⟨front, b, eq⟩
  · simp [nil]
  · rw [eq, List.dropLast_concat] at once
    have fixed : front.filter (!·.repeating) = front := by
      rw [List.filter_eq_self]
      intro c hc
      simp [once c hc]
    have unseen : front.find? (·.repeating) = none := by
      rw [List.find?_eq_none]
      intro c hc
      simp [once c hc]
    rw [eq, List.filter_append, List.find?_append, fixed, unseen]
    cases hb : b.repeating <;> simp [hb]

lemma repeating_of_mem {b : Block} (h : m.repeatingBlock? = some b) :
    b ∈ m.blocks ∧ b.repeating = true :=
  ⟨List.mem_of_find?_eq_some h, by simpa using List.find?_some h⟩

lemma repeatingBlock?_of_mem (h : m.LaidOut) {b : Block} (hb : b ∈ m.blocks)
    (repeating : b.repeating = true) : m.repeatingBlock? = some b := by
  rw [h.blocks_eq] at hb
  rcases List.mem_append.1 hb with hb | hb
  · simp [fixedBlocks, repeating] at hb
  · simpa using hb

lemma fixed_of_mem {b : Block} (h : b ∈ m.fixedBlocks) :
    b ∈ m.blocks ∧ b.repeating = false := by
  simpa [fixedBlocks] using h

/-- The blocks that stand once, up to `baseLen`. -/
lemma tiled_fixed (h : m.LaidOut) : Layout.Tiled firstDataOffset m.fixedBlocks
    (firstDataOffset + m.baseLen.toNat) := by
  have tiled := h.tiled
  rw [h.blocks_eq] at tiled
  rw [h.baseLen_eq]
  exact tiled.of_append.1

/-- The repeating block begins where the others end. -/
lemma placedAt_repeating (h : m.LaidOut) {b : Block} (hb : m.repeatingBlock? = some b) :
    b.PlacedAt (firstDataOffset + m.baseLen.toNat) := by
  have tiled := h.tiled
  rw [h.blocks_eq, hb] at tiled
  rw [h.baseLen_eq]
  cases tiled.of_append.2 with
  | cons head _ => exact head

/-- `len` counts one instance of the repeating block. -/
lemma len_eq (h : m.LaidOut) :
    m.len.toNat = m.baseLen.toNat + Layout.totalLen m.repeatingBlock?.toList := by
  have last := h.tiled.last_eq
  rw [h.blocks_eq, Layout.totalLen_append, ← h.baseLen_eq] at last
  omega

/-- The lengths are in order. -/
lemma baseLen_le_len (h : m.LaidOut) : m.baseLen ≤ m.len := by
  have len := h.len_eq
  rw [UInt16.le_iff_toNat_le]
  omega

lemma repeatLen_eq (h : m.LaidOut) :
    m.repeatLen.toNat = Layout.totalLen m.repeatingBlock?.toList := by
  have len := h.len_eq
  rw [repeatLen_of_le h.baseLen_le_len, UInt16.toNat_sub_of_le _ _ h.baseLen_le_len]
  omega

end LaidOut

end Model

/-! ## Registries -/

namespace Registry

lemma get_eq_ok_iff {r : Registry} {id : UInt16} {e : Entry} :
    r.get id = .ok e ↔ r.get? id = some e := by
  unfold get
  cases r.get? id <;> simp

lemma mem_of_get? {r : Registry} {id : UInt16} {e : Entry} (h : r.get? id = some e) :
    e ∈ r.entries ∧ e.id = id := by
  refine ⟨List.mem_of_find?_eq_some h, ?_⟩
  simpa using List.find?_some h

end Registry

lemma Entry.laidOut_of_resolve {e r : Entry} (h : e.resolve = .ok r) : r.model.LaidOut := by
  unfold resolve at h
  cases hf : (e.model.resolve e.name).fault with
  | some f => simp [hf] at h
  | none =>
    simp only [hf, Except.ok.injEq] at h
    rw [← h]
    exact Model.laidOut_of_resolve hf

lemma Entry.laidOut_of_resolveAll {es rs : List Entry} (h : resolveAll es = .ok rs) :
    ∀ e ∈ rs, e.model.LaidOut := by
  induction es generalizing rs with
  | nil =>
    cases h
    simp
  | cons e es ih =>
    unfold resolveAll at h
    cases hr : e.resolve with
    | error f => simp [hr] at h
    | ok r =>
      cases hs : resolveAll es with
      | error f => simp [hr, hs, Except.map] at h
      | ok rest =>
        simp only [hr, hs, Except.map, Except.ok.injEq] at h
        rw [← h]
        exact List.forall_mem_cons.2 ⟨laidOut_of_resolve hr, ih hs⟩

/-- Every model of a registry that was built has gone through layout. -/
theorem Registry.laidOut_of_build {c : Catalogue} {registry : Registry}
    (h : c.build = .ok registry) {e : Entry} (he : e ∈ registry.entries) : e.model.LaidOut := by
  unfold Catalogue.build at h
  split at h
  · cases h
  · next entries resolved =>
    cases h
    exact Entry.laidOut_of_resolveAll resolved e he

end SunSpec
