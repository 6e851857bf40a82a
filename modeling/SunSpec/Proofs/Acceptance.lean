import SunSpec.Proofs.Slots

/-!
# Which models layout accepts

`Model.resolve` finds every offset and length with one running counter, which explicit offsets move
and which each block takes over from the block before it.  This file says what the pass should find
without a counter, and shows that the pass finds it, whenever it is there.

A point begins at its explicit offset, or where the point before it ended (`Point.offsetBehind`,
`Layout.endOf`).  A block reaches to the end of its last point (`Block.lengthAt`), and it starts
behind the header and the lengths of all blocks before it (`Model.startOf`).  A model
`HasGeometry` where these numbers are register numbers, no explicit offset lies in front of its
block, and only the last block repeats.

`Layout.placePoints_fault_iff` and `Layout.placeBlocks_fault_iff` compare the pass with these
numbers, `Layout.placePoints_placed` and `Layout.placeBlocks_laid` do so for what it leaves behind.
The running offsets of a pass are listed by `Model.runningOffsets`; none of them is larger than the
last register number and the longest field together.
-/

namespace SunSpec

/-! ## The geometry of a model -/

namespace Point

/-- Where a point begins that comes behind offset `stop`. -/
def offsetBehind (p : Point) (stop : Nat) : Nat := p.offset.elim stop UInt16.toNat

/-- What layout asks of a point behind `stop`, in a block that starts at `start`. -/
structure Fits (p : Point) (start stop : Nat) : Prop where
  explicit : ∀ o, p.offset = some o → start ≤ o.toNat
  implied : p.offset = none → stop ≤ 65535

end Point

namespace Layout

/-- Where the last of `ps` ends, behind a point that ends at `stop`. -/
def endOf (stop : Nat) (ps : List Point) : Nat :=
  ps.foldl (fun stop p => p.offsetBehind stop + p.registers) stop

@[simp] lemma endOf_nil (stop : Nat) : endOf stop [] = stop := rfl

@[simp] lemma endOf_cons (stop : Nat) (p : Point) (ps : List Point) :
    endOf stop (p :: ps) = endOf (p.offsetBehind stop + p.registers) ps := rfl

lemma endOf_append (stop : Nat) (ps qs : List Point) :
    endOf stop (ps ++ qs) = endOf (endOf stop ps) qs := List.foldl_append

end Layout

namespace Block

/-- Registers of a block that starts at `start`. -/
def lengthAt (b : Block) (start : Nat) : Nat := Layout.endOf start b.points - start

/-- What layout asks of a block that starts at `start`. -/
structure Fits (b : Block) (start : Nat) : Prop where
  start_le : start ≤ 65535
  points : ∀ j (p : Point), b.points[j]? = some p →
    p.Fits start (Layout.endOf start (b.points.take j))
  length_le : b.lengthAt start ≤ 65535

/-- `c` is the block `b`, laid out from `start` on. -/
structure IsLaid (b : Block) (start : Nat) (c : Block) : Prop where
  repeating_eq : c.repeating = b.repeating
  start_eq : c.start.toNat = start
  len_eq : c.len.toNat = b.lengthAt start
  length_points : c.points.length = b.points.length
  point : ∀ j (p : Point), b.points[j]? = some p → ∃ o : UInt16,
    c.points[j]? = some { p with offset := some o } ∧ (p.offset = some o ∨
      p.offset = none ∧ o.toNat = Layout.endOf start (b.points.take j))

end Block

namespace Layout

/-- Registers of the blocks that stand in a row from `first` on, of those of them that `pick`
chooses by their repeating flag. -/
def lengthOf (pick : Bool → Bool) : (first : Nat) → List Block → Nat
  | _, [] => 0
  | first, b :: bs =>
    (if pick b.repeating then b.lengthAt first else 0) +
      lengthOf pick (first + b.lengthAt first) bs

/-- Registers of all blocks of a row. -/
def rowLength (first : Nat) (bs : List Block) : Nat := lengthOf (fun _ => true) first bs

@[simp] lemma rowLength_nil (first : Nat) : rowLength first [] = 0 := rfl

@[simp] lemma rowLength_cons (first : Nat) (b : Block) (bs : List Block) :
    rowLength first (b :: bs) = b.lengthAt first + rowLength (first + b.lengthAt first) bs := by
  simp [rowLength, lengthOf]

lemma lengthOf_le_rowLength (pick : Bool → Bool) (first : Nat) (bs : List Block) :
    lengthOf pick first bs ≤ rowLength first bs := by
  induction bs generalizing first with
  | nil => exact le_rfl
  | cons b bs ih =>
    have rest := ih (first + b.lengthAt first)
    rw [rowLength_cons, lengthOf]
    split <;> omega

end Layout

namespace Model

/-- Registers of all blocks, one instance of the repeating block among them. -/
def fullLength (m : Model) : Nat := Layout.rowLength firstDataOffset m.blocks

/-- Registers of the blocks that do not repeat. -/
def fixedLength (m : Model) : Nat := Layout.lengthOf (!·) firstDataOffset m.blocks

/-- Where block `k` starts: behind the header and the blocks before it. -/
def startOf (m : Model) (k : Nat) : Nat :=
  firstDataOffset + Layout.rowLength firstDataOffset (m.blocks.take k)

/-- A block in front of the last never repeats, and each block fits in its place. -/
structure BlocksFit (m : Model) : Prop where
  once : ∀ b ∈ m.blocks.dropLast, b.repeating = false
  fits : ∀ k (b : Block), m.blocks[k]? = some b → b.Fits (m.startOf k)

/-- The blocks fit, and so do all of them together. -/
structure HasGeometry (m : Model) : Prop extends m.BlocksFit where
  fullLength_le : m.fullLength ≤ 65535

end Model

/-! ## Points -/

namespace Layout

/-- A statement about the items of a list and what stands before them, item by item. -/
lemma forall_getElem?_cons {α : Type} {P : Nat → α → Prop} {x : α} {xs : List α} :
    (∀ k a, (x :: xs)[k]? = some a → P k a) ↔ P 0 x ∧ ∀ k a, xs[k]? = some a → P (k + 1) a := by
  constructor
  · intro h
    exact ⟨h 0 x rfl, fun k a ha => h (k + 1) a ha⟩
  · rintro ⟨head, tail⟩ k a ha
    cases k with
    | zero =>
      cases ha
      exact head
    | succ k => exact tail k a ha

lemma register_ok {model : String} {n : Nat} (le : n ≤ 65535) :
    register model n = .ok (UInt16.ofNat n) := by
  rw [register, if_pos (by omega)]

lemma register_error {model : String} {n : Nat} (lt : 65535 < n) :
    register model n = .error (.beyondRegisterSpace model n) := by
  rw [register, if_neg (by omega)]

lemma le_of_register {model : String} {n : Nat} {o : UInt16} (h : register model n = .ok o) :
    n ≤ 65535 := by
  have eq := toNat_of_register h
  have lt := o.toNat_lt
  omega

lemma placePoint_placed {model : String} {start counter : Nat} {p : Point} {placed : Placed}
    (h : placePoint model start counter p = .ok placed) :
    p.Fits start counter ∧ placed.next = p.offsetBehind counter + p.registers ∧
      ∃ o, placed.point = { p with offset := some o } ∧
        (p.offset = some o ∨ p.offset = none ∧ o.toNat = counter) := by
  obtain ⟨o, point, next, ⟨explicit, start_le⟩ | ⟨implied, running⟩⟩ := placePoint_ok h
  · have begin_eq : p.offsetBehind counter = o.toNat := by rw [Point.offsetBehind, explicit]; rfl
    refine ⟨⟨?_, ?_⟩, by rw [begin_eq, next], o, point, .inl explicit⟩
    · intro o' eq
      rw [explicit] at eq
      cases eq
      exact start_le
    · intro none
      rw [explicit] at none
      cases none
  · have begin_eq : p.offsetBehind counter = counter := by rw [Point.offsetBehind, implied]; rfl
    have lt := o.toNat_lt
    refine ⟨⟨?_, fun _ => by omega⟩, by rw [begin_eq, next, running], o, point,
      .inr ⟨implied, running⟩⟩
    intro o' eq
    rw [implied] at eq
    cases eq

lemma not_fits_of_placePoint {model : String} {start counter : Nat} {p : Point} {f : Fault}
    (h : placePoint model start counter p = .error f) : ¬ p.Fits start counter := by
  intro fits
  unfold placePoint at h
  cases hp : p.offset with
  | some o =>
    have start_le := fits.explicit o hp
    simp only [hp, if_neg (Nat.not_lt.2 start_le)] at h
    cases h
  | none =>
    rw [hp] at h
    simp only [register_ok (fits.implied hp)] at h
    cases h

/-- A pass over points reaches the end where all of them fit. -/
lemma placePoints_fault_iff {model : String} {start counter : Nat} {ps : List Point} :
    (placePoints model start counter ps).fault = none ↔
      ∀ j (p : Point), ps[j]? = some p → p.Fits start (endOf counter (ps.take j)) := by
  induction ps generalizing counter with
  | nil => simp [placePoints]
  | cons p ps ih =>
    rw [forall_getElem?_cons]
    unfold placePoints
    cases hp : placePoint model start counter p with
    | error f =>
      have unfit := not_fits_of_placePoint hp
      simp [unfit]
    | ok placed =>
      obtain ⟨fits, next, -⟩ := placePoint_placed hp
      simp only [List.take_zero, endOf_nil, fits, true_and, List.take_succ_cons, endOf_cons]
      rw [← next]
      exact ih

/-- What a pass over points that reaches the end leaves behind. -/
lemma placePoints_placed {model : String} {start counter : Nat} {ps : List Point}
    (h : (placePoints model start counter ps).fault = none) :
    (placePoints model start counter ps).next = endOf counter ps ∧
      (placePoints model start counter ps).items.length = ps.length ∧
      ∀ j (p : Point), ps[j]? = some p → ∃ o : UInt16,
        (placePoints model start counter ps).items[j]? = some { p with offset := some o } ∧
          (p.offset = some o ∨ p.offset = none ∧ o.toNat = endOf counter (ps.take j)) := by
  induction ps generalizing counter with
  | nil => simp [placePoints]
  | cons p ps ih =>
    rw [forall_getElem?_cons]
    unfold placePoints at h ⊢
    cases hp : placePoint model start counter p with
    | error f => simp [hp] at h
    | ok placed =>
      obtain ⟨-, next, o, point, begins⟩ := placePoint_placed hp
      simp only [hp] at h ⊢
      obtain ⟨stop, length, points⟩ := ih h
      rw [next] at stop length points ⊢
      refine ⟨stop, by rw [List.length_cons, List.length_cons, length], ⟨o, ?_, begins⟩, points⟩
      rw [List.getElem?_cons_zero, point]

/-! ## Blocks -/

/-- What a block that fits is made into. -/
lemma placeBlock_of_fits {model : String} {counter : Nat} {b : Block} (fits : b.Fits counter) :
    placeBlock model counter b =
      let pass := placePoints model counter counter b.points
      ⟨{ b with
          points := pass.items
          len := UInt16.ofNat (b.lengthAt counter)
          start := UInt16.ofNat counter },
        counter + b.lengthAt counter, pass.remarks, none⟩ := by
  have unstopped : (placePoints model counter counter b.points).fault = none :=
    placePoints_fault_iff.2 fits.points
  have next := (placePoints_placed unstopped).1
  have le := (pointsPlaced_of_placePoints le_rfl unstopped).le_next le_rfl
  have length : (placePoints model counter counter b.points).next - counter =
      b.lengthAt counter := by rw [next, Block.lengthAt]
  unfold placeBlock
  simp only [register_ok fits.start_le, unstopped, length, register_ok fits.length_le,
    BlockPass.mk.injEq, true_and, and_true]
  omega

lemma placeBlock_fault_iff {model : String} {counter : Nat} {b : Block} :
    (placeBlock model counter b).fault = none ↔ b.Fits counter := by
  constructor
  · intro h
    unfold placeBlock at h
    cases hs : register model counter with
    | error f => simp [hs] at h
    | ok start =>
      cases hf : (placePoints model counter counter b.points).fault with
      | some f => simp [hs, hf] at h
      | none =>
        cases hl : register model
            ((placePoints model counter counter b.points).next - counter) with
        | error f => simp [hs, hf, hl] at h
        | ok len =>
          refine ⟨le_of_register hs, placePoints_fault_iff.1 hf, ?_⟩
          rw [(placePoints_placed hf).1] at hl
          exact le_of_register hl
  · intro fits
    rw [placeBlock_of_fits fits]

lemma isLaid_of_placeBlock {model : String} {counter : Nat} {b : Block} (fits : b.Fits counter) :
    b.IsLaid counter (placeBlock model counter b).block := by
  have unstopped : (placePoints model counter counter b.points).fault = none :=
    placePoints_fault_iff.2 fits.points
  obtain ⟨-, length, point⟩ := placePoints_placed unstopped
  rw [placeBlock_of_fits fits]
  exact
    { repeating_eq := rfl
      start_eq := UInt16.toNat_ofNat_of_lt' (Nat.lt_succ_of_le fits.start_le)
      len_eq := UInt16.toNat_ofNat_of_lt' (Nat.lt_succ_of_le fits.length_le)
      length_points := length
      point := point }

/-- A pass over blocks reaches the end where all of them fit. -/
lemma placeBlocks_fault_iff {model : String} {first : Nat} {bs : List Block} :
    (placeBlocks model first bs).fault = none ↔
      ∀ k (b : Block), bs[k]? = some b → b.Fits (first + rowLength first (bs.take k)) := by
  induction bs generalizing first with
  | nil => simp [placeBlocks]
  | cons b bs ih =>
    rw [forall_getElem?_cons]
    unfold placeBlocks
    cases hb : (placeBlock model first b).fault with
    | some f =>
      have unfit : ¬ b.Fits first := by
        intro fits
        rw [placeBlock_fault_iff.2 fits] at hb
        cases hb
      simp [hb, unfit]
    | none =>
      have fits := placeBlock_fault_iff.1 hb
      have next : (placeBlock model first b).next = first + b.lengthAt first := by
        rw [placeBlock_of_fits fits]
      simp only [hb, next, List.take_zero, rowLength_nil, Nat.add_zero, fits, true_and,
        List.take_succ_cons, rowLength_cons, ← Nat.add_assoc]
      exact ih

/-- What a pass over blocks that reaches the end leaves behind. -/
lemma placeBlocks_laid {model : String} {first : Nat} {bs : List Block}
    (h : (placeBlocks model first bs).fault = none) :
    (placeBlocks model first bs).items.length = bs.length ∧
      (∀ k (b : Block), bs[k]? = some b →
        ∃ c, (placeBlocks model first bs).items[k]? = some c ∧
          b.IsLaid (first + rowLength first (bs.take k)) c) ∧
      ∀ pick : Bool → Bool, totalLen ((placeBlocks model first bs).items.filter
        fun c => pick c.repeating) = lengthOf pick first bs := by
  induction bs generalizing first with
  | nil => simp [placeBlocks, lengthOf]
  | cons b bs ih =>
    rw [forall_getElem?_cons]
    unfold placeBlocks at h ⊢
    cases hb : (placeBlock model first b).fault with
    | some f => simp [hb] at h
    | none =>
      have fits := placeBlock_fault_iff.1 hb
      have laid : b.IsLaid first (placeBlock model first b).block := isLaid_of_placeBlock fits
      have next : (placeBlock model first b).next = first + b.lengthAt first := by
        rw [placeBlock_of_fits fits]
      simp only [hb, next] at h ⊢
      obtain ⟨length, blocks, lengths⟩ := ih h
      refine ⟨by rw [List.length_cons, List.length_cons, length], ⟨⟨_, rfl, laid⟩, ?_⟩, ?_⟩
      · intro k c hc
        obtain ⟨d, hd, isLaid⟩ := blocks k c hc
        refine ⟨d, hd, ?_⟩
        rw [List.take_succ_cons, rowLength_cons, ← Nat.add_assoc]
        exact isLaid
      · intro pick
        rw [List.filter_cons, lengthOf, ← laid.repeating_eq, ← lengths pick, ← laid.len_eq]
        split <;> simp

end Layout

/-! ## Models -/

namespace Model

variable {m : Model} {name : String}

lemma misplaced_eq_none_iff :
    Layout.misplaced? m.blocks = none ↔ ∀ b ∈ m.blocks.dropLast, b.repeating = false := by
  simp [Layout.misplaced?]

/-- What layout makes of a model whose blocks fit.  The length of the fixed blocks is stored
before that of all blocks is looked at. -/
lemma resolve_of_blocksFit (fits : m.BlocksFit) :
    m.resolve name =
      let pass := Layout.placeBlocks name firstDataOffset m.blocks
      let filled := { m with blocks := pass.items }
      if m.fixedLength ≤ 65535 then
        if m.fullLength ≤ 65535 then
          ⟨{ filled with
              baseLen := UInt16.ofNat m.fixedLength
              len := UInt16.ofNat m.fullLength }, pass.remarks, none⟩
        else ⟨{ filled with baseLen := UInt16.ofNat m.fixedLength }, pass.remarks,
          some (.beyondRegisterSpace name m.fullLength)⟩
      else ⟨filled, pass.remarks, some (.beyondRegisterSpace name m.fixedLength)⟩ := by
  have unstopped : (Layout.placeBlocks name firstDataOffset m.blocks).fault = none :=
    Layout.placeBlocks_fault_iff.2 fits.fits
  obtain ⟨-, -, lengths⟩ := Layout.placeBlocks_laid unstopped
  have fixed : Layout.totalLen ((Layout.placeBlocks name firstDataOffset m.blocks).items.filter
      (!·.repeating)) = m.fixedLength := lengths (!·)
  have full : Layout.totalLen (Layout.placeBlocks name firstDataOffset m.blocks).items =
      m.fullLength := by
    have all := lengths fun _ => true
    rwa [List.filter_true] at all
  unfold resolve
  simp only [misplaced_eq_none_iff.2 fits.once, unstopped, fixed, full]
  by_cases fixed_le : m.fixedLength ≤ 65535
  · by_cases full_le : m.fullLength ≤ 65535
    · simp [fixed_le, full_le, Layout.register_ok]
    · simp [fixed_le, full_le, Layout.register_ok, Layout.register_error (Nat.not_le.1 full_le)]
  · simp [fixed_le, Layout.register_error (Nat.not_le.1 fixed_le)]

/-- The blocks of a model whose blocks fit are laid out one by one. -/
lemma isLaid_of_blocksFit (name : String) (fits : m.BlocksFit) :
    (m.resolve name).model.blocks.length = m.blocks.length ∧
      ∀ k (b : Block), m.blocks[k]? = some b →
        ∃ c, (m.resolve name).model.blocks[k]? = some c ∧ b.IsLaid (m.startOf k) c := by
  have unstopped : (Layout.placeBlocks name firstDataOffset m.blocks).fault = none :=
    Layout.placeBlocks_fault_iff.2 fits.fits
  have blocks : (m.resolve name).model.blocks =
      (Layout.placeBlocks name firstDataOffset m.blocks).items := by
    simp only [resolve_of_blocksFit fits]
    split
    · split <;> rfl
    · rfl
  obtain ⟨length, laid, -⟩ := Layout.placeBlocks_laid unstopped
  rw [blocks]
  exact ⟨length, laid⟩

/-- A model with a block that does not fit keeps its two lengths. -/
lemma resolve_of_not_blocksFit (name : String) (unfit : ¬ m.BlocksFit) :
    ∃ f, (m.resolve name).fault = some f ∧ (m.resolve name).model.baseLen = m.baseLen ∧
      (m.resolve name).model.len = m.len := by
  unfold resolve
  cases hm : Layout.misplaced? m.blocks with
  | some k => exact ⟨_, rfl, rfl, rfl⟩
  | none =>
    cases hp : (Layout.placeBlocks name firstDataOffset m.blocks).fault with
    | some f =>
      simp [hp]
    | none =>
      have fits : m.BlocksFit := ⟨misplaced_eq_none_iff.1 hm, Layout.placeBlocks_fault_iff.1 hp⟩
      exact absurd fits unfit

lemma fixedLength_le_fullLength (m : Model) : m.fixedLength ≤ m.fullLength :=
  Layout.lengthOf_le_rowLength _ _ _

/-- Layout accepts the models that have a geometry. -/
lemma resolve_fault_iff : (m.resolve name).fault = none ↔ m.HasGeometry := by
  have le := m.fixedLength_le_fullLength
  constructor
  · intro h
    by_cases fits : m.BlocksFit
    · refine ⟨fits, ?_⟩
      rw [resolve_of_blocksFit fits] at h
      by_contra full_gt
      simp only [if_neg full_gt] at h
      split at h <;> cases h
    · obtain ⟨f, fault, -⟩ := resolve_of_not_blocksFit name fits
      rw [fault] at h
      cases h
  · intro geometry
    have full_le := geometry.fullLength_le
    rw [resolve_of_blocksFit geometry.toBlocksFit, if_pos (le.trans full_le), if_pos full_le]

end Model

/-! ## The running offset -/

namespace Layout

/-- The running offsets of a pass over points.  An explicit offset is one of them, before the size
of its point is added. -/
def runningInPoints (model : String) (start : Nat) : Nat → List Point → List Nat
  | counter, [] => [counter]
  | counter, p :: ps =>
    counter :: match placePoint model start counter p with
      | .error _ => []
      | .ok placed => placed.point.first :: runningInPoints model start placed.next ps

/-- The running offsets of a pass over blocks. -/
def runningInBlocks (model : String) : Nat → List Block → List Nat
  | counter, [] => [counter]
  | counter, b :: bs =>
    match register model counter with
    | .error _ => [counter]
    | .ok _ =>
      let head := placeBlock model counter b
      runningInPoints model counter counter b.points ++
        if head.fault.isSome then [] else runningInBlocks model head.next bs

variable {model : String} {start counter : Nat}

lemma placePoint_le {p : Point} {placed : Placed}
    (h : placePoint model start counter p = .ok placed) :
    placed.point.first ≤ 65535 ∧ placed.next ≤ 65535 + 32768 := by
  obtain ⟨o, point, next, -⟩ := placePoint_ok h
  have first : placed.point.first = o.toNat := by rw [point]; rfl
  have offset_lt := o.toNat_lt
  have size_le : p.registers ≤ 32768 := p.encoding.registers_le
  omega

lemma runningInPoints_le {ps : List Point} (le : counter ≤ 65535 + 32768) :
    ∀ n ∈ runningInPoints model start counter ps, n ≤ 65535 + 32768 := by
  induction ps generalizing counter with
  | nil => simpa [runningInPoints] using le
  | cons p ps ih =>
    unfold runningInPoints
    cases hp : placePoint model start counter p with
    | error f => simpa using le
    | ok placed =>
      obtain ⟨first_le, next_le⟩ := placePoint_le hp
      rw [List.forall_mem_cons, List.forall_mem_cons]
      exact ⟨le, by omega, ih next_le⟩

/-- The pass ends, or stops, at one of its running offsets. -/
lemma placePoints_next_mem {ps : List Point} :
    (placePoints model start counter ps).next ∈ runningInPoints model start counter ps := by
  induction ps generalizing counter with
  | nil => simp [runningInPoints, placePoints]
  | cons p ps ih =>
    unfold runningInPoints placePoints
    cases hp : placePoint model start counter p with
    | error f => simp
    | ok placed => exact List.mem_cons_of_mem _ (List.mem_cons_of_mem _ ih)

lemma placeBlock_next_mem {b : Block} {first : UInt16} (h : register model counter = .ok first) :
    (placeBlock model counter b).next ∈ runningInPoints model counter counter b.points := by
  have next : (placeBlock model counter b).next =
      (placePoints model counter counter b.points).next := by
    unfold placeBlock
    simp only [h]
    cases hf : (placePoints model counter counter b.points).fault with
    | some f => rfl
    | none =>
      cases hl : register model ((placePoints model counter counter b.points).next - counter) with
      | error f => simp
      | ok len => simp
  rw [next]
  exact placePoints_next_mem

lemma runningInBlocks_le {bs : List Block} (le : counter ≤ 65535 + 32768) :
    ∀ n ∈ runningInBlocks model counter bs, n ≤ 65535 + 32768 := by
  induction bs generalizing counter with
  | nil => simpa [runningInBlocks] using le
  | cons b bs ih =>
    unfold runningInBlocks
    cases hs : register model counter with
    | error f => simpa using le
    | ok start =>
      have inside : ∀ n ∈ runningInPoints model counter counter b.points, n ≤ 65535 + 32768 :=
        runningInPoints_le le
      dsimp only
      rw [List.forall_mem_append]
      refine ⟨inside, ?_⟩
      cases hb : (placeBlock model counter b).fault with
      | some f => simp
      | none =>
        have next_le := inside _ (placeBlock_next_mem hs)
        simpa using ih next_le

lemma placeBlocks_next_mem {bs : List Block} :
    (placeBlocks model counter bs).next ∈ runningInBlocks model counter bs := by
  induction bs generalizing counter with
  | nil => simp [runningInBlocks, placeBlocks]
  | cons b bs ih =>
    unfold runningInBlocks placeBlocks
    cases hs : register model counter with
    | error f => simp [placeBlock, hs]
    | ok first =>
      have inside := placeBlock_next_mem (b := b) hs
      cases hb : (placeBlock model counter b).fault with
      | some f => simpa [hb] using inside
      | none =>
        simp only [hb]
        exact List.mem_append_right _ (by simpa using ih)

end Layout

/-- The running offsets of layout, up to where it ends or stops. -/
def Model.runningOffsets (name : String) (m : Model) : List Nat :=
  match Layout.misplaced? m.blocks with
  | some _ => []
  | none => Layout.runningInBlocks name firstDataOffset m.blocks

/-! ## What layout finds -/

lemma Layout.Tiled.placedAt_getElem? {first last : Nat} {bs : List Block}
    (h : Tiled first bs last) {k : Nat} {b : Block} (hb : bs[k]? = some b) :
    b.PlacedAt (first + totalLen (bs.take k)) := by
  induction h generalizing k with
  | nil => simp at hb
  | cons head _ ih =>
    cases k with
    | zero =>
      cases hb
      exact head
    | succ k =>
      rw [List.take_succ_cons, totalLen_cons, ← Nat.add_assoc]
      exact ih hb

namespace Model

lemma LaidOut.repeatingBlock?_eq_some_iff {m : Model} (h : m.LaidOut) {b : Block} :
    m.repeatingBlock? = some b ↔ m.blocks.getLast? = some b ∧ b.repeating = true := by
  constructor
  · intro found
    have last : m.blocks.getLast? = some b := by
      rw [h.blocks_eq, found]
      simp
    exact ⟨last, (repeating_of_mem found).2⟩
  · rintro ⟨last, repeating⟩
    exact h.repeatingBlock?_of_mem (List.mem_of_getLast? last) repeating

/-- **Layout finds the geometry of a model, and accepts the models that have one.**  In an accepted
model every explicit offset is as it was and every other point follows the point before it; each
block starts behind the lengths of the blocks before it; and the two lengths are those of the fixed
blocks and of all blocks, so that they tell a repeating block that is not empty, and how long it
is.  The running offset stays far below 32 bits, also where layout stops, and before each block it
is the lengths of the blocks so far behind the header. -/
theorem resolve_finds_geometry (name : String) (m : Model) :
    ((m.resolve name).fault = none ↔ m.HasGeometry) ∧
    ((m.resolve name).fault = none →
      let r := (m.resolve name).model
      r.blocks.length = m.blocks.length ∧
      (∀ k (b : Block), m.blocks[k]? = some b →
        ∃ c, r.blocks[k]? = some c ∧ b.IsLaid (m.startOf k) c ∧
          c.start.toNat = firstDataOffset + Layout.totalLen (r.blocks.take k)) ∧
      r.len.toNat = Layout.totalLen r.blocks ∧
      r.baseLen.toNat = Layout.totalLen r.fixedBlocks ∧
      r.baseLen ≤ r.len ∧
      (r.hasRepeating = true ↔
        ∃ c, r.blocks.getLast? = some c ∧ c.repeating = true ∧ 0 < c.len.toNat) ∧
      ∀ c, r.blocks.getLast? = some c → r.hasRepeating = true → r.repeatLen? = some c.len) ∧
    (∀ n ∈ m.runningOffsets name, n ≤ 65535 + 32768) ∧
    ∀ k, let pass := Layout.placeBlocks name firstDataOffset (m.blocks.take k)
      pass.fault = none → pass.next = firstDataOffset + Layout.totalLen pass.items ∧
        pass.next ≤ 65535 + 32768 := by
  refine ⟨resolve_fault_iff, ?_, ?_, ?_⟩
  · intro accepted r
    have geometry := resolve_fault_iff.1 accepted
    have laidOut : r.LaidOut := laidOut_of_resolve accepted
    have len_eq : r.len.toNat = Layout.totalLen r.blocks := by
      have last := laidOut.tiled.last_eq
      omega
    obtain ⟨length, blocks⟩ := isLaid_of_blocksFit name geometry.toBlocksFit
    refine ⟨length, ?_, len_eq, laidOut.baseLen_eq, laidOut.baseLen_le_len, ?_, ?_⟩
    · intro k b hb
      obtain ⟨c, hc, isLaid⟩ := blocks k b hb
      exact ⟨c, hc, isLaid, (laidOut.tiled.placedAt_getElem? hc).start_eq⟩
    · rw [laidOut.hasRepeating_iff]
      simp only [laidOut.repeatingBlock?_eq_some_iff, and_assoc]
    · intro c last repeats
      obtain ⟨d, found, -⟩ := laidOut.hasRepeating_iff.1 repeats
      have same : d = c := by
        have last' := (laidOut.repeatingBlock?_eq_some_iff.1 found).1
        rw [last] at last'
        exact (Option.some.inj last').symm
      rw [repeatLen?_of_le laidOut.baseLen_le_len, Option.some_inj, ← UInt16.toNat_inj,
        laidOut.repeatLen_of_repeating found, same]
  · intro n hn
    unfold runningOffsets at hn
    cases hm : Layout.misplaced? m.blocks with
    | some k => simp [hm] at hn
    | none =>
      simp only [hm] at hn
      exact Layout.runningInBlocks_le (by decide) n hn
  · intro k pass unstopped
    refine ⟨(Layout.tiled_of_placeBlocks unstopped).1.last_eq, ?_⟩
    exact Layout.runningInBlocks_le (by decide) _ Layout.placeBlocks_next_mem

end Model

/-! ### A terrace

An explicit offset leaves a gap and the next one goes back behind it, a string has an odd length,
and the last block repeats. -/

/-- The model before layout. -/
def terrace : Model := .ofBlocks [
  .ofPoints [.ofEncoding "SF" (.plain .sunssf), .ofEncoding "Nm" (.string 5),
    ⟨"Evt", .plain .bitfield32, some 9, []⟩, ⟨"Lo", .plain .uint16, some 4, []⟩] false,
  .ofPoints [.ofEncoding "X" (.plain .uint32), ⟨"Y", .plain .uint64, some 8, []⟩] true]

theorem Model.resolve_finds_geometry_terrace :
    (terrace.resolve "terrace").fault = none ∧ terrace.HasGeometry ∧
      let r := (terrace.resolve "terrace").model
      (r.baseLen, r.len, r.repeatLen?) = (2, 9, some 7) ∧
      (∃ c, r.blocks[1]? = some c ∧ c.start.toNat = 5 ∧
        c.points.map Point.offset = [some 5, some 8]) ∧
      terrace.runningOffsets "terrace" = [3, 3, 4, 4, 7, 9, 11, 4, 5, 5, 5, 7, 8, 12, 12] ∧
      ∀ n ∈ terrace.runningOffsets "terrace", n ≤ 65535 + 32768 := by
  have accepted : (terrace.resolve "terrace").fault = none := rfl
  obtain ⟨iff, found, small, -⟩ := Model.resolve_finds_geometry "terrace" terrace
  obtain ⟨-, blocks, -, -, -, -, repeatLen⟩ := found accepted
  have repeats : (terrace.resolve "terrace").model.hasRepeating = true := by decide
  have seven : (terrace.resolve "terrace").model.repeatLen? = some 7 := repeatLen _ rfl repeats
  obtain ⟨c, hc, isLaid, -⟩ := blocks 1 _ rfl
  refine ⟨accepted, iff.1 accepted, ?_, ⟨c, hc, isLaid.start_eq, ?_⟩, by decide, small⟩
  · rw [seven]
    decide
  · have same : (terrace.resolve "terrace").model.blocks[1]?.map
        (fun b => b.points.map Point.offset) = some [some 5, some 8] := by decide
    rw [hc] at same
    exact Option.some.inj same

end SunSpec
