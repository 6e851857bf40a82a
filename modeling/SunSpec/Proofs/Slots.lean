import Mathlib.Tactic.Ring
import SunSpec.Proofs.Geometry

/-!
# Slots

A `Slot` is a point in one instance of its block.  `Model.slots` lists the slots of a model in
block, instance and point order, and `Model.position` is the byte of the payload at which each
begins, taken from the offsets of layout and the number of the instance.  Neither reader nor writer
computes these positions: both walk the blocks with cursors of their own.  They meet here, and
`Proofs/CleanReading.lean` and `Proofs/Placement.lean` show that each of them goes by `position`.

`Model.Orderly` collects what layout does not ask for and position arithmetic needs.  Where a model
is orderly, fields lie inside the payload (`LaidOut.field_le`) and none begins before the one in
front of it has ended (`LaidOut.pairwise_slots`).
-/

namespace SunSpec

/-! ## Slots and their positions -/

/-- A point in one instance of its block. -/
structure Slot where
  point : Point
  /-- Number of the instance of a repeating block. -/
  index : Option Nat
deriving DecidableEq

/-- The slots of a block of which `count` instances follow each other, if it repeats. -/
def Block.slots (b : Block) (count : Nat) : List Slot :=
  if b.repeating then (List.range count).flatMap fun k => b.points.map fun p => ⟨p, some k⟩
  else b.points.map fun p => ⟨p, none⟩

/-- A block that stands once has the one instance that carries no number. -/
lemma Block.slots_eq (b : Block) (count : Nat) :
    b.slots count = (List.range' 0 (if b.repeating then count else 1)).flatMap fun k =>
      b.points.map fun p => ⟨p, if b.repeating then some k else none⟩ := by
  cases hr : b.repeating <;> simp [slots, hr, List.range_eq_range']

/-- The slots of a model, in block, instance and point order. -/
def Model.slots (m : Model) (count : Nat) : List Slot := m.blocks.flatMap (·.slots count)

/-- The byte of the payload at which a slot begins. -/
def Model.position (m : Model) (s : Slot) : Nat :=
  2 * (s.point.first - firstDataOffset) + 2 * s.index.getD 0 * m.repeatLen.toNat

/-- Every block is in order, and a repeating block has a length, so that its instances can be
counted. -/
structure Model.Orderly (m : Model) : Prop where
  inOrder : ∀ b ∈ m.blocks, b.InOrder
  len_ne_zero : ∀ b ∈ m.blocks.getLast?, b.repeating = true → b.len ≠ 0

instance (m : Model) : Decidable m.Orderly :=
  decidable_of_iff ((∀ b ∈ m.blocks, b.InOrder) ∧
      ∀ b ∈ m.blocks.getLast?, b.repeating = true → b.len ≠ 0)
    ⟨fun h => ⟨h.1, h.2⟩, fun h => ⟨h.1, h.2⟩⟩

namespace Model

lemma Orderly.fixed {m : Model} (orderly : m.Orderly) : ∀ b ∈ m.fixedBlocks, b.InOrder :=
  fun b hb => orderly.inOrder b (LaidOut.fixed_of_mem hb).1

/-- The instances of the repeating block that a declared length has room for. -/
def instancesIn (m : Model) (declared : UInt16) : Nat :=
  if m.hasRepeating then (declared.toNat - m.baseLen.toNat) / m.repeatLen.toNat else 0

/-! ## Declared lengths -/

variable {m : Model} {id declared : UInt16}

lemma baseLen_eq_len (flat : m.hasRepeating = false) : m.baseLen = m.len := by
  simpa [hasRepeating] using flat

/-- Where something repeats, an instance of it has registers. -/
lemma repeatLen_pos (ordered : m.baseLen ≤ m.len) (repeats : m.hasRepeating = true) :
    0 < m.repeatLen.toNat := by
  have ne : m.baseLen.toNat ≠ m.len.toNat := by
    simpa [hasRepeating, UInt16.toNat_inj] using repeats
  rw [repeatLen_of_le ordered, UInt16.toNat_sub_of_le _ _ ordered]
  rw [UInt16.le_iff_toNat_le] at ordered
  omega

lemma checkLength?_of_flat (flat : m.hasRepeating = false) : m.checkLength? id declared =
    some (if declared = m.len then none else
      some (.lengthMismatch id declared s!"model defines {m.len.toNat}")) := by
  unfold checkLength?
  rw [flat]
  rfl

lemma checkLength?_of_repeating (ordered : m.baseLen ≤ m.len) (repeats : m.hasRepeating = true) :
    m.checkLength? id declared =
      some (if m.baseLen ≤ declared ∧ (declared - m.baseLen) % m.repeatLen = 0 then none else
        some (.lengthMismatch id declared
          s!"expected {m.baseLen.toNat} plus a multiple of {m.repeatLen.toNat}")) := by
  have unit : m.repeatLen? = some m.repeatLen := repeatLen?_of_le ordered
  have divisor : m.repeatLen ≠ 0 := by
    intro zero
    have pos := repeatLen_pos ordered repeats
    rw [zero] at pos
    cases pos
  unfold checkLength?
  by_cases le : m.baseLen ≤ declared
  · have behind : Registers.sub? declared m.baseLen = some (declared - m.baseLen) := if_pos le
    have rest : Registers.mod? (declared - m.baseLen) m.repeatLen =
        some ((declared - m.baseLen) % m.repeatLen) := if_neg divisor
    simp [repeats, unit, behind, rest, le]
  · have short : Registers.sub? declared m.baseLen = none := if_neg le
    simp [repeats, unit, short, le]

/-- The check stops exactly where the lengths are out of order. -/
lemma checkLength?_eq_none_iff : m.checkLength? id declared = none ↔ ¬ m.baseLen ≤ m.len := by
  cases hr : m.hasRepeating with
  | false =>
    rw [checkLength?_of_flat hr, baseLen_eq_len hr]
    exact iff_of_false nofun fun disordered => disordered (UInt16.le_refl _)
  | true =>
    by_cases ordered : m.baseLen ≤ m.len
    · rw [checkLength?_of_repeating ordered hr]
      exact iff_of_false nofun (not_not.2 ordered)
    · refine iff_of_true ?_ ordered
      unfold checkLength?
      rw [if_pos hr, repeatLen?_of_not_le ordered]
      rfl

lemma checkLength?_of_le (ordered : m.baseLen ≤ m.len) :
    m.checkLength? id declared = some (m.checkLength id declared) := by
  rw [checkLength]
  cases found : m.checkLength? id declared with
  | none => exact absurd ordered (checkLength?_eq_none_iff.1 found)
  | some verdict => rfl

/-- A length that fits is that of the fixed blocks and of whole instances of the repeating one. -/
lemma declared_eq (ordered : m.baseLen ≤ m.len) (fits : m.checkLength id declared = none) :
    declared.toNat = m.baseLen.toNat + m.instancesIn declared * m.repeatLen.toNat := by
  unfold checkLength at fits
  unfold instancesIn
  cases hr : m.hasRepeating with
  | true =>
    simp only [checkLength?_of_repeating ordered hr, Option.join_some, ite_eq_left_iff,
      reduceCtorEq, imp_false, not_not, if_true] at fits ⊢
    obtain ⟨le, whole⟩ := fits
    have whole : (declared.toNat - m.baseLen.toNat) % m.repeatLen.toNat = 0 := by
      rw [← UInt16.toNat_sub_of_le _ _ le, ← UInt16.toNat_mod, whole]
      rfl
    rw [Nat.div_mul_cancel (Nat.dvd_of_mod_eq_zero whole)]
    rw [UInt16.le_iff_toNat_le] at le
    omega
  | false =>
    simp only [checkLength?_of_flat hr, Option.join_some, ite_eq_left_iff, reduceCtorEq, imp_false,
      not_not, Bool.false_eq_true, if_false] at fits ⊢
    rw [fits, baseLen_eq_len hr]
    omega

/-- The other way round, such a length fits. -/
lemma checkLength_of_eq (ordered : m.baseLen ≤ m.len) {count : Nat}
    (single : m.hasRepeating = false → count = 0)
    (eq : declared.toNat = m.baseLen.toNat + count * m.repeatLen.toNat) :
    m.checkLength id declared = none ∧ m.instancesIn declared = count := by
  unfold checkLength instancesIn
  cases hr : m.hasRepeating with
  | true =>
    have pos := repeatLen_pos ordered hr
    have le : m.baseLen ≤ declared := by rw [UInt16.le_iff_toNat_le]; omega
    have behind : declared.toNat - m.baseLen.toNat = count * m.repeatLen.toNat := by omega
    have whole : (declared - m.baseLen) % m.repeatLen = 0 := by
      apply UInt16.toNat_inj.1
      rw [UInt16.toNat_mod, UInt16.toNat_sub_of_le _ _ le, behind, Nat.mul_mod_left]
      rfl
    simp [checkLength?_of_repeating ordered hr, le, whole, behind, Nat.mul_div_cancel _ pos]
  | false =>
    have same : declared = m.len := by
      apply UInt16.toNat_inj.1
      rw [eq, single hr, baseLen_eq_len hr]
      omega
    simp [checkLength?_of_flat hr, same, single hr]

namespace LaidOut

/-- The slots of the blocks that stand once come first, then those of each further instance. -/
lemma slots_eq (h : m.LaidOut) (count : Nat) :
    m.slots count = (m.fixedBlocks.flatMap fun b => b.points.map fun p => ⟨p, none⟩) ++
      (List.range count).flatMap fun k =>
        m.repeatingBlock?.toList.flatMap fun b => b.points.map fun p => ⟨p, some k⟩ := by
  have fixed : (m.fixedBlocks.flatMap fun b => b.slots count) =
      m.fixedBlocks.flatMap fun b => b.points.map fun p => ⟨p, none⟩ := by
    refine List.flatMap_congr fun b hb => ?_
    simp [Block.slots, (fixed_of_mem hb).2]
  rw [slots, h.blocks_eq, List.flatMap_append, fixed]
  cases hr : m.repeatingBlock? with
  | none => simp
  | some b => simp [Block.slots, (repeating_of_mem hr).2]

lemma repeatLen_of_repeating (h : m.LaidOut) {b : Block} (hb : m.repeatingBlock? = some b) :
    m.repeatLen.toNat = b.len.toNat := by
  rw [h.repeatLen_eq, hb]
  simp

/-- The lengths tell a repeating block, where it is not empty. -/
lemma hasRepeating_iff (h : m.LaidOut) :
    m.hasRepeating = true ↔ ∃ b, m.repeatingBlock? = some b ∧ 0 < b.len.toNat := by
  have len := h.len_eq
  have ne : m.hasRepeating = true ↔ m.baseLen.toNat ≠ m.len.toNat := by
    simp [hasRepeating, UInt16.toNat_inj]
  rw [ne, len]
  cases m.repeatingBlock? with
  | none => simp
  | some b => simp [Nat.pos_iff_ne_zero]

lemma len_pos_of_repeating (h : m.LaidOut) (orderly : m.Orderly) {b : Block}
    (hb : m.repeatingBlock? = some b) : 0 < b.len.toNat := by
  have last : m.blocks.getLast? = some b := by
    rw [h.blocks_eq, hb]
    simp
  have ne := orderly.len_ne_zero b last (repeating_of_mem hb).2
  rw [Nat.pos_iff_ne_zero]
  exact fun eq => ne (UInt16.toNat_inj.1 eq)

/-- Each slot belongs to a block, and to an instance of it where the block repeats. -/
lemma exists_block_of_mem_slots {count : Nat} {s : Slot} (hs : s ∈ m.slots count) :
    ∃ b ∈ m.blocks, s.point ∈ b.points ∧
      (b.repeating = false ∧ s.index = none ∨
        b.repeating = true ∧ ∃ k < count, s.index = some k) := by
  obtain ⟨b, hb, hs⟩ := List.mem_flatMap.1 hs
  refine ⟨b, hb, ?_⟩
  cases hr : b.repeating with
  | false =>
    simp only [Block.slots, hr, Bool.false_eq_true, if_false, List.mem_map] at hs
    obtain ⟨p, hp, rfl⟩ := hs
    exact ⟨hp, .inl ⟨rfl, rfl⟩⟩
  | true =>
    simp only [Block.slots, hr, if_true, List.mem_flatMap, List.mem_map, List.mem_range] at hs
    obtain ⟨k, hk, p, hp, rfl⟩ := hs
    exact ⟨hp, .inr ⟨rfl, k, hk, rfl⟩⟩

/-! ## Where slots stand -/

lemma fixed_le (h : m.LaidOut) (ordered : ∀ b ∈ m.blocks, b.InOrder) {b : Block}
    (hb : b ∈ m.fixedBlocks) {p : Point} (hp : p ∈ b.points) :
    firstDataOffset ≤ p.first ∧ p.stop ≤ firstDataOffset + m.baseLen.toNat := by
  obtain ⟨first, first_le, le_last, placed⟩ := h.tiled_fixed.exists_placedAt hb
  have stop := placed.points.stop_le (ordered b (fixed_of_mem hb).1) hp
  exact ⟨first_le.trans (placed.first_le hp), stop.trans le_last⟩

lemma repeating_le (h : m.LaidOut) (ordered : ∀ b ∈ m.blocks, b.InOrder) {b : Block}
    (hb : m.repeatingBlock? = some b) {p : Point} (hp : p ∈ b.points) :
    firstDataOffset + m.baseLen.toNat ≤ p.first ∧
      p.stop ≤ firstDataOffset + m.baseLen.toNat + m.repeatLen.toNat := by
  have placed := h.placedAt_repeating hb
  have stop := placed.points.stop_le (ordered b (repeating_of_mem hb).1) hp
  rw [h.repeatLen_of_repeating hb]
  exact ⟨placed.first_le hp, stop⟩

/-- An instance has ended where a later one begins. -/
lemma instance_le (m : Model) {k l : Nat} (lt : k < l) :
    2 * k * m.repeatLen.toNat + 2 * m.repeatLen.toNat ≤ 2 * l * m.repeatLen.toNat := by
  calc 2 * k * m.repeatLen.toNat + 2 * m.repeatLen.toNat
      = 2 * (k + 1) * m.repeatLen.toNat := by ring
    _ ≤ 2 * l * m.repeatLen.toNat := Nat.mul_le_mul_right _ (by omega)

/-- The field of a slot stands behind the header, and in whole registers inside the payload. -/
lemma field_le (h : m.LaidOut) (ordered : ∀ b ∈ m.blocks, b.InOrder) {count : Nat} {s : Slot}
    (hs : s ∈ m.slots count) :
    firstDataOffset ≤ s.point.first ∧ m.position s + 2 * s.point.registers ≤
      2 * (m.baseLen.toNat + count * m.repeatLen.toNat) := by
  obtain ⟨b, hb, hp, ⟨fixed, index⟩ | ⟨repeating, k, hk, index⟩⟩ := exists_block_of_mem_slots hs
  · have mem : b ∈ m.fixedBlocks := by simp [fixedBlocks, hb, fixed]
    obtain ⟨start_le, stop⟩ := h.fixed_le ordered mem hp
    simp only [position, index, Point.stop, Option.getD_none] at *
    omega
  · obtain ⟨start_le, stop⟩ := h.repeating_le ordered (h.repeatingBlock?_of_mem hb repeating) hp
    have last := instance_le m hk
    have payload : 2 * count * m.repeatLen.toNat = 2 * (count * m.repeatLen.toNat) := by ring
    rw [payload] at last
    simp only [position, index, Point.stop, Option.getD_some] at *
    omega

/-- Behind the header, an order of offsets is an order of positions. -/
lemma position_le {p q : Point} (index : Option Nat) (behind : firstDataOffset ≤ p.first)
    (le : p.stop ≤ q.first) :
    m.position ⟨p, index⟩ + 2 * p.registers ≤ m.position ⟨q, index⟩ := by
  simp only [position, Point.stop] at *
  omega

lemma pairwise_fixed (h : m.LaidOut) (orderly : m.Orderly) :
    (m.fixedBlocks.flatMap fun b => b.points.map fun p => (⟨p, none⟩ : Slot)).Pairwise fun s t =>
      m.position s + 2 * s.point.registers ≤ m.position t := by
  refine List.pairwise_flatMap.2 ⟨fun b hb => ?_, ?_⟩
  · rw [List.pairwise_map]
    refine (orderly.fixed b hb).pairwise.imp_of_mem fun hp _ le => ?_
    exact position_le none (h.fixed_le orderly.inOrder hb hp).1 le
  · refine (h.tiled_fixed.pairwise orderly.fixed).imp_of_mem fun hb _ le => ?_
    simp only [List.forall_mem_map]
    exact fun p hp q hq => position_le none (h.fixed_le orderly.inOrder hb hp).1 (le p hp q hq)

lemma pairwise_repeating (h : m.LaidOut) (orderly : m.Orderly) {b : Block}
    (hb : m.repeatingBlock? = some b) (count : Nat) :
    ((List.range count).flatMap fun k => b.points.map fun p => (⟨p, some k⟩ : Slot)).Pairwise
      fun s t => m.position s + 2 * s.point.registers ≤ m.position t := by
  refine List.pairwise_flatMap.2 ⟨fun k _ => ?_, ?_⟩
  · rw [List.pairwise_map]
    refine (orderly.inOrder b (repeating_of_mem hb).1).pairwise.imp_of_mem fun hp _ le => ?_
    have behind := (h.repeating_le orderly.inOrder hb hp).1
    exact position_le (some k) ((Nat.le_add_right _ _).trans behind) le
  · refine List.pairwise_lt_range.imp fun {k l} lt => ?_
    simp only [List.forall_mem_map]
    intro p hp q hq
    obtain ⟨start_le, stop⟩ := h.repeating_le orderly.inOrder hb hp
    obtain ⟨start_le', -⟩ := h.repeating_le orderly.inOrder hb hq
    have next := instance_le m lt
    simp only [position, Option.getD_some, Point.stop] at *
    omega

/-- Every field has ended where a field behind it begins. -/
theorem pairwise_slots (h : m.LaidOut) (orderly : m.Orderly) (count : Nat) :
    (m.slots count).Pairwise fun s t =>
      m.position s + 2 * s.point.registers ≤ m.position t := by
  rw [h.slots_eq]
  cases hr : m.repeatingBlock? with
  | none => simpa [List.flatMap_eq_nil_iff.2] using h.pairwise_fixed orderly
  | some b =>
    simp only [Option.toList_some, List.flatMap_singleton]
    refine List.pairwise_append.2
      ⟨h.pairwise_fixed orderly, h.pairwise_repeating orderly hr count, ?_⟩
    -- the repeating block begins behind the last fixed one
    simp only [List.mem_flatMap, List.mem_map, List.mem_range]
    rintro _ ⟨c, hc, p, hp, rfl⟩ _ ⟨k, -, q, hq, rfl⟩
    obtain ⟨start_le, stop⟩ := h.fixed_le orderly.inOrder hc hp
    obtain ⟨behind, -⟩ := h.repeating_le orderly.inOrder hr hq
    simp only [position, Option.getD_none, Point.stop] at *
    omega

/-- The fields of two slots share no register. -/
lemma apart_of_ne (h : m.LaidOut) (orderly : m.Orderly) {count : Nat} {s t : Slot}
    (hs : s ∈ m.slots count) (ht : t ∈ m.slots count) (ne : s ≠ t) :
    m.position s + 2 * s.point.registers ≤ m.position t ∨
      m.position t + 2 * t.point.registers ≤ m.position s := by
  have symm : Std.Symm fun s t : Slot => m.position s + 2 * s.point.registers ≤ m.position t ∨
      m.position t + 2 * t.point.registers ≤ m.position s := ⟨fun _ _ => Or.symm⟩
  have apart := (h.pairwise_slots orderly count).imp
    (S := fun s t => m.position s + 2 * s.point.registers ≤ m.position t ∨
      m.position t + 2 * t.point.registers ≤ m.position s) Or.inl
  exact apart.forall hs ht ne

/-- A repeating block that is not empty has a point in each instance. -/
lemma exists_slot (h : m.LaidOut) (orderly : m.Orderly) {b : Block}
    (hb : m.repeatingBlock? = some b) {count k : Nat} (lt : k < count) :
    ∃ s ∈ m.slots count, s.index = some k := by
  have pos := h.len_pos_of_repeating orderly hb
  have points := (h.placedAt_repeating hb).points
  obtain ⟨mem, repeating⟩ := repeating_of_mem hb
  cases hp : b.points with
  | nil =>
    rw [hp] at points
    generalize stop : firstDataOffset + m.baseLen.toNat + b.len.toNat = n at points
    cases points
    omega
  | cons p ps =>
    have inside : ⟨p, some k⟩ ∈ b.slots count := by
      rw [Block.slots, if_pos repeating, hp]
      exact List.mem_flatMap.2 ⟨k, List.mem_range.2 lt, List.mem_cons_self⟩
    exact ⟨⟨p, some k⟩, List.mem_flatMap.2 ⟨b, mem, inside⟩, rfl⟩

end LaidOut

end Model

end SunSpec
