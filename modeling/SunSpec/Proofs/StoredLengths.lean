import SunSpec.Proofs.Acceptance

/-!
# The lengths of a model that is edited and laid out

A model can be edited after layout and laid out again, and a layout that stops leaves the model
with what it had stored by then.  `Model.run` follows a model through such a history.  Everybody who
counts the instances of a repeating block subtracts `baseLen` from `len`, and has no result where
the difference is negative, so the two should be in order whatever the history.

`Model.lengths_of_resolve` says what one layout does to them.  It stores both, or neither, with one
exception: where the fixed blocks can be counted and all blocks together cannot (`Model.Overruns`),
it stores `baseLen` and then stops, in front of `len`.  The theorem on histories says that this is
the one way in which the order is lost, and when it is; behind it stands a model that loses it on
its first layout.
-/

namespace SunSpec

namespace Model

/-- What the holder of a model may do with it. -/
inductive Action where
  -- the blocks are open to everybody, the lengths are not
  | edit (change : List Block → List Block)
  | resolve (name : String)

/-- A model after an action. -/
def act (m : Model) : Action → Model
  | .edit change => { m with blocks := change m.blocks }
  | .resolve name => (m.resolve name).model

/-- A model after a history. -/
def run (m : Model) (as : List Action) : Model := as.foldl act m

/-- Each block fits and the fixed ones can be counted, but not all of them together. -/
structure Overruns (m : Model) : Prop extends m.BlocksFit where
  fixedLength_le : m.fixedLength ≤ 65535
  fullLength_gt : 65535 < m.fullLength

variable {m : Model}

/-- What one layout does to the two lengths. -/
lemma lengths_of_resolve (name : String) (m : Model) :
    let r := (m.resolve name).model
    m.HasGeometry ∧ r.baseLen.toNat = m.fixedLength ∧ r.len.toNat = m.fullLength ∨
    m.Overruns ∧ r.baseLen.toNat = m.fixedLength ∧ r.len = m.len ∨
    ¬ m.HasGeometry ∧ ¬ m.Overruns ∧ r.baseLen = m.baseLen ∧ r.len = m.len := by
  intro r
  by_cases fits : m.BlocksFit
  · have le := m.fixedLength_le_fullLength
    by_cases fixed_le : m.fixedLength ≤ 65535
    · have fixed : (UInt16.ofNat m.fixedLength).toNat = m.fixedLength :=
        UInt16.toNat_ofNat_of_lt' (Nat.lt_succ_of_le fixed_le)
      by_cases full_le : m.fullLength ≤ 65535
      · have full : (UInt16.ofNat m.fullLength).toNat = m.fullLength :=
          UInt16.toNat_ofNat_of_lt' (Nat.lt_succ_of_le full_le)
        left
        simp only [r, resolve_of_blocksFit fits, if_pos fixed_le, if_pos full_le]
        exact ⟨⟨fits, full_le⟩, fixed, full⟩
      · right; left
        simp only [r, resolve_of_blocksFit fits, if_pos fixed_le, if_neg full_le]
        exact ⟨⟨fits, fixed_le, Nat.not_le.1 full_le⟩, fixed, trivial⟩
    · right; right
      simp only [r, resolve_of_blocksFit fits, if_neg fixed_le]
      exact ⟨fun geometry => fixed_le (le.trans geometry.fullLength_le),
        fun overruns => fixed_le overruns.fixedLength_le, trivial, trivial⟩
  · right; right
    obtain ⟨f, -, baseLen, len⟩ := resolve_of_not_blocksFit name fits
    exact ⟨fun geometry => fits geometry.toBlocksFit, fun overruns => fits overruns.toBlocksFit,
      baseLen, len⟩

/-- Lengths in order stay in order, if the blocks do not overrun or the length that is left behind
is large enough. -/
lemma resolve_ordered_iff {name : String} (ordered : m.baseLen ≤ m.len) :
    (m.resolve name).model.baseLen ≤ (m.resolve name).model.len ↔
      (m.Overruns → m.fixedLength ≤ m.len.toNat) := by
  obtain ⟨geometry, baseLen, len⟩ | ⟨overruns, baseLen, len⟩ | ⟨-, fit, baseLen, len⟩ :=
    lengths_of_resolve name m
  · have le := m.fixedLength_le_fullLength
    have fit : ¬ m.Overruns := fun overruns =>
      absurd geometry.fullLength_le (Nat.not_le.2 overruns.fullLength_gt)
    rw [UInt16.le_iff_toNat_le, baseLen, len]
    exact ⟨fun _ overruns => absurd overruns fit, fun _ => le⟩
  · rw [UInt16.le_iff_toNat_le, baseLen, len]
    exact ⟨fun le _ => le, fun le => le overruns⟩
  · rw [baseLen, len]
    exact ⟨fun _ overruns => absurd overruns fit, fun _ => ordered⟩

/-- Lengths in order are those that have a difference. -/
lemma exists_repeatLen?_iff :
    (∃ unit, m.repeatLen? = some unit ∧ m.baseLen.toNat + unit.toNat = m.len.toNat) ↔
      m.baseLen ≤ m.len := by
  constructor
  · rintro ⟨unit, -, eq⟩
    rw [UInt16.le_iff_toNat_le]
    omega
  · intro ordered
    refine ⟨_, repeatLen?_of_le ordered, ?_⟩
    rw [repeatLen_of_le ordered, UInt16.toNat_sub_of_le _ _ ordered]
    exact Nat.add_sub_of_le (UInt16.le_iff_toNat_le.1 ordered)

/-- They are those, too, that a declared length can be checked against. -/
lemma forall_checkLength?_iff :
    (∀ id declared, ∃ verdict, m.checkLength? id declared = some verdict) ↔
      m.baseLen ≤ m.len := by
  simp only [← Option.ne_none_iff_exists', ne_eq, checkLength?_eq_none_iff, not_not, forall_const]

lemma run_take_succ (as : List Action) (k : Nat) :
    m.run (as.take (k + 1)) = (as[k]?.toList).foldl act (m.run (as.take k)) := by
  rw [run, List.take_add_one, List.foldl_append]
  rfl

/-- **The lengths of a model stay in order through every history in which no layout overruns
behind a shorter length.**  A layout that reaches the end stores lengths in order, whatever it
found; one that stops leaves both as they were, unless the blocks overrun: then it leaves the
length of the fixed blocks in front of the length that was there.  So a history that starts with a
new model has lengths in order at every time, and with them a difference and an answer to every
declared length, exactly where every layout of blocks that overrun finds a length that is not below
that of the fixed blocks.  Lengths that are out of order have neither. -/
theorem lengths_ordered_iff (bs : List Block) (as : List Action) :
    (∀ (name : String) (m : Model),
      let r := (m.resolve name).model
      ((m.resolve name).fault = none → r.baseLen ≤ r.len) ∧
      ((m.resolve name).fault ≠ none → ¬ m.Overruns → r.baseLen = m.baseLen ∧ r.len = m.len) ∧
      (m.Overruns → (m.resolve name).fault = some (.beyondRegisterSpace name m.fullLength) ∧
        r.baseLen.toNat = m.fixedLength ∧ r.len = m.len)) ∧
    ((∀ k, let m := (ofBlocks bs).run (as.take k)
        m.baseLen ≤ m.len ∧
        (∃ unit, m.repeatLen? = some unit ∧ m.baseLen.toNat + unit.toNat = m.len.toNat) ∧
        ∀ id declared, ∃ verdict, m.checkLength? id declared = some verdict) ↔
      ∀ k name, as[k]? = some (.resolve name) →
        let m := (ofBlocks bs).run (as.take k)
        m.Overruns → m.fixedLength ≤ m.len.toNat) ∧
    ∀ m : Model, ¬ m.baseLen ≤ m.len →
      m.repeatLen? = none ∧ ∀ id declared, m.checkLength? id declared = none := by
  refine ⟨?_, ?_, ?_⟩
  · intro name m r
    refine ⟨?_, ?_, ?_⟩
    · intro accepted
      exact (laidOut_of_resolve accepted).baseLen_le_len
    · intro stopped fit
      obtain ⟨geometry, -⟩ | ⟨overruns, -⟩ | ⟨-, -, kept⟩ := lengths_of_resolve name m
      · exact absurd (resolve_fault_iff.2 geometry) stopped
      · exact absurd overruns fit
      · exact kept
    · intro overruns
      have full_gt : ¬ m.fullLength ≤ 65535 := Nat.not_le.2 overruns.fullLength_gt
      have fault : (m.resolve name).fault = some (.beyondRegisterSpace name m.fullLength) := by
        rw [resolve_of_blocksFit overruns.toBlocksFit, if_pos overruns.fixedLength_le,
          if_neg full_gt]
      obtain ⟨geometry, -⟩ | ⟨-, stored⟩ | ⟨-, fit, -⟩ := lengths_of_resolve name m
      · exact absurd geometry.fullLength_le full_gt
      · exact ⟨fault, stored⟩
      · exact absurd overruns fit
  · simp only [exists_repeatLen?_iff, forall_checkLength?_iff, and_self]
    constructor
    · intro ordered k name action overruns
      have next := ordered (k + 1)
      rw [run_take_succ, action] at next
      exact (resolve_ordered_iff (ordered k)).1 next overruns
    · intro roomy k
      -- by induction on the number of actions
      induction k with
      | zero => exact UInt16.le_refl 0
      | succ k ih =>
        rw [run_take_succ]
        cases action : as[k]? with
        | none => exact ih
        | some a =>
          cases a with
          | edit change => exact ih
          | resolve name => exact (resolve_ordered_iff ih).2 (roomy k name action)
  · intro m disordered
    exact ⟨repeatLen?_of_not_le disordered, fun _ _ => checkLength?_eq_none_iff.2 disordered⟩

end Model

/-! ### A model that overruns

Its repeating block ends behind the last register number, its fixed block far in front of it. -/

/-- One fixed register, and a repeating block of 65535. -/
def brimful : List Block := [
  .ofPoints [.ofEncoding "A" (.plain .uint16)] false,
  .ofPoints [⟨"B", .plain .uint64, some 65535, []⟩] true]

theorem Model.lengths_of_overrun :
    let m := (Model.ofBlocks brimful).run [.resolve "brimful"]
    ((Model.ofBlocks brimful).resolve "brimful").fault =
        some (.beyondRegisterSpace "brimful" 65536) ∧
      (m.baseLen, m.len) = (1, 0) ∧ ¬ m.baseLen ≤ m.len ∧
      -- whoever subtracts them stops
      m.repeatLen? = none ∧ m.checkLength? 1 0 = none := by
  decide

end SunSpec
