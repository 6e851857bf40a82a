import Mathlib.Data.List.Infix
import SunSpec.Proofs.CleanReading

/-!
# Reading a buffer that was cut

A response may end early, and a buffer may hold more than a model asks for.  This file compares
what is read off some bytes with what is read off the front of them.

A field is decoded from its own bytes, so the reader of points does the same in both until a field
does not fit (`Block.readPoints_of_front`).  Of a repeating block, fewer instances are counted, and
these are the first ones (`Block.readInstances_of_front`).  A block that stands once may consume
fewer bytes of a front, since it consumes no more than there are; then nothing is left of the front,
and otherwise what is left of it is the front of what is left of the bytes
(`Block.left_of_front`).  Layout lets a block repeat only behind all others, so this carries the
comparison through the blocks of every model in a registry.
-/

namespace SunSpec

lemma Codec.decode_eq_of_front {e : Encoding} {p q : List UInt8} (front : p <+: q)
    (room : e.size ≤ p.length) : decode e q = decode e p := by
  obtain ⟨rest, rfl⟩ := front
  unfold decode
  rw [List.take_append_of_le_length room]

/-! ## Blocks -/

namespace Block

variable (b : Block) {p q : List UInt8}

/-- The points of an instance are read off both in the same way, until a field does not fit in the
front. -/
lemma readPoints_of_front (front : p <+: q) (index : Option Nat) (cursor : Nat)
    (ps : List Point) :
    let cut := b.readPoints index p p.length cursor ps
    let whole := b.readPoints index q q.length cursor ps
    cut.readings <+: whole.readings ∧ (cut.shortfall = none → whole = cut) := by
  induction ps generalizing cursor with
  | nil => exact ⟨List.prefix_rfl, fun _ => rfl⟩
  | cons point ps ih =>
    unfold readPoints
    by_cases skipped : point.isSkipped = true
    · obtain ⟨shortened, same⟩ := ih cursor
      simp only [if_pos skipped]
      refine ⟨(List.prefix_append_right_inj [_]).2 shortened, fun unstopped => ?_⟩
      rw [same unstopped]
    · simp only [if_neg skipped]
      by_cases short : p.length < b.positionOf point cursor + point.size
      · rw [if_pos short]
        exact ⟨List.nil_prefix, nofun⟩
      · have le : p.length ≤ q.length := front.length_le
        have fits : ¬ q.length < b.positionOf point cursor + point.size := by omega
        have room : point.size ≤ (p.drop (b.positionOf point cursor)).length := by
          rw [List.length_drop]
          omega
        have value := Codec.decode_eq_of_front (front.drop (b.positionOf point cursor)) room
        obtain ⟨shortened, same⟩ := ih (b.positionOf point cursor + 2 * point.registers)
        rw [if_neg short, if_neg fits, value]
        refine ⟨(List.prefix_append_right_inj [_]).2 shortened, fun unstopped => ?_⟩
        rw [same unstopped]

/-- Instances are read behind what was read before them. -/
lemma readInstances_behind (available : Nat) (acc : Array Reading) (consumed count k : Nat)
    (bytes : List UInt8) :
    acc.toList <+: (b.readInstances available acc consumed count k bytes).readings := by
  induction count generalizing acc consumed k bytes with
  | zero => exact List.prefix_rfl
  | succ count ih =>
    have grown (rs : List Reading) : acc.toList <+: (acc ++ rs).toList := by
      rw [Array.toList_appendList]
      exact List.prefix_append _ _
    unfold readInstances
    dsimp only
    split
    · exact grown _
    · exact (grown _).trans (ih _ _ _ _)

/-- Fewer instances of a front are the first ones. -/
lemma readInstances_of_front (front : p <+: q) {few many : Nat} (le : few ≤ many)
    (acc : Array Reading) (consumed consumed' k : Nat) :
    (b.readInstances p.length acc consumed few k (p.drop (k * b.unit))).readings <+:
      (b.readInstances q.length acc consumed' many k (q.drop (k * b.unit))).readings := by
  induction few generalizing many acc consumed consumed' k with
  | zero => exact b.readInstances_behind _ _ _ _ _ _
  | succ few ih =>
    obtain ⟨many, rfl⟩ := Nat.exists_eq_add_of_le' (Nat.le_of_add_left_le le)
    obtain ⟨shortened, same⟩ :=
      b.readPoints_of_front (front.drop (k * b.unit)) (b.indexOf k) 0 b.points
    have next (bytes : List UInt8) :
        (bytes.drop (k * b.unit)).drop b.unit = bytes.drop ((k + 1) * b.unit) := by
      rw [List.drop_drop, Nat.add_mul, Nat.one_mul]
    rw [List.length_drop, List.length_drop] at shortened same
    unfold readInstances
    dsimp only
    rw [next, next]
    cases hr : (b.readPoints (b.indexOf k) (p.drop (k * b.unit)) (p.length - k * b.unit) 0
        b.points).shortfall with
    | some needed =>
      -- the front is read no further, and the bytes may be
      have here : (acc ++ (b.readPoints (b.indexOf k) (p.drop (k * b.unit))
            (p.length - k * b.unit) 0 b.points).readings).toList <+:
          (acc ++ (b.readPoints (b.indexOf k) (q.drop (k * b.unit))
            (q.length - k * b.unit) 0 b.points).readings).toList := by
        rw [Array.toList_appendList, Array.toList_appendList]
        exact (List.prefix_append_right_inj _).2 shortened
      dsimp only
      split
      · exact here
      · exact here.trans (b.readInstances_behind _ _ _ _ _ _)
    | none =>
      rw [same hr, hr]
      exact ih (Nat.le_of_succ_le_succ le) _ _ _ _

/-- A block reads off the front of some bytes the first of what it reads off the bytes. -/
lemma read_of_front (front : p <+: q) : (b.read p).readings <+: (b.read q).readings := by
  have le : p.length ≤ q.length := front.length_le
  have instances {few many : Nat} (le : few ≤ many) :=
    b.readInstances_of_front front le #[] 0 0 0
  simp only [Nat.zero_mul, List.drop_zero] at instances
  unfold read
  cases b.repeating with
  | false => exact instances le_rfl
  | true =>
    by_cases zero : b.unit = 0
    · simp [zero]
    · simp only [Bool.not_true, Bool.false_eq_true, if_false, if_neg zero]
      exact instances (Nat.div_le_div_right le)

variable {b}

/-- What is read of a block that stands once. -/
lemma read_of_once (once : b.repeating = false) (bytes : List UInt8) :
    let r := b.readPoints none bytes bytes.length 0 b.points
    b.read bytes = match r.shortfall with
      | some needed => ⟨r.readings, min r.cursor bytes.length,
          some (.ofFault (.truncated needed bytes.length))⟩
      | none => ⟨r.readings, min (max b.unit r.cursor) bytes.length, none⟩ := by
  have index : b.indexOf 0 = none := by simp [indexOf, once]
  simp only [read, once, readInstances, index, Bool.not_false, if_true, Nat.zero_mul, Nat.sub_zero,
    Nat.zero_add, Nat.zero_max]
  cases (b.readPoints none bytes bytes.length 0 b.points).shortfall <;> simp

/-- A block that stands once and does not stop the reader leaves of a front the front of what it
leaves of the bytes. -/
lemma left_of_front (once : b.repeating = false) (front : p <+: q)
    (unstopped : (b.read p).diagnostic = none) :
    (b.read q).readings = (b.read p).readings ∧ (b.read q).diagnostic = none ∧
      p.drop (b.read p).consumed <+: q.drop (b.read q).consumed := by
  obtain ⟨-, same⟩ := b.readPoints_of_front front none 0 b.points
  rw [read_of_once once p] at unstopped ⊢
  rw [read_of_once once q]
  cases hr : (b.readPoints none p p.length 0 b.points).shortfall with
  | some needed =>
    rw [hr] at unstopped
    cases unstopped
  | none =>
    rw [same hr, hr]
    refine ⟨rfl, rfl, ?_⟩
    dsimp only
    have le : p.length ≤ q.length := front.length_le
    by_cases inside : max b.unit (b.readPoints none p p.length 0 b.points).cursor ≤ p.length
    · rw [Nat.min_eq_left inside, Nat.min_eq_left (inside.trans le)]
      exact front.drop _
    · rw [Nat.min_eq_right (Nat.le_of_not_le inside), List.drop_length]
      exact List.nil_prefix

end Block

/-- A block is read in front of the blocks behind it. -/
lemma read_prefix_readBlocks (b : Block) (bs : List Block) (bytes : List UInt8) :
    (b.read bytes).readings <+: (readBlocks (b :: bs) bytes).readings := by
  rw [readBlocks]
  dsimp only
  split
  · exact List.prefix_rfl
  · exact List.prefix_append _ _

/-- Blocks of which at most the last one repeats read off a front the first of what they read. -/
theorem readBlocks_of_front {bs : List Block} (once : ∀ b ∈ bs.dropLast, b.repeating = false)
    {p q : List UInt8} (front : p <+: q) :
    (readBlocks bs p).readings <+: (readBlocks bs q).readings := by
  induction bs generalizing p q with
  | nil => exact List.prefix_rfl
  | cons b bs ih =>
    have head := (b.read_of_front front).trans (read_prefix_readBlocks b bs q)
    cases bs with
    | nil =>
      have alone : (readBlocks [b] p).readings = (b.read p).readings := by
        rw [readBlocks]
        dsimp only
        split
        · rfl
        · exact List.append_nil _
      rw [alone]
      exact head
    | cons c bs =>
      cases hd : (b.read p).diagnostic with
      | some d =>
        have stopped : (readBlocks (b :: c :: bs) p).readings = (b.read p).readings := by
          rw [readBlocks]
          simp only [hd]
        rw [stopped]
        exact head
      | none =>
        rw [List.dropLast_cons_of_ne_nil (List.cons_ne_nil c bs)] at once
        -- `b` took the same bytes off both, or all of the front
        obtain ⟨same, unstopped, left⟩ :=
          Block.left_of_front (once b List.mem_cons_self) front hd
        have rest := ih (fun d hd => once d (List.mem_cons_of_mem _ hd)) left
        rw [readBlocks, readBlocks.eq_2 q]
        simp only [hd, unstopped, same]
        exact (List.prefix_append_right_inj _).2 rest

/-! ## Datasets -/

namespace Dataset

variable {e : Entry} {declared : UInt16} {p q : List UInt8}

/-- The bytes behind the wanted ones are not looked at. -/
lemma ofPayload_eq_of_front (front : p <+: q) (room : wanted e.model declared ≤ p.length) :
    ofPayload e declared p = ofPayload e declared q := by
  have le : p.length ≤ q.length := front.length_le
  have same : p.take (wanted e.model declared) = q.take (wanted e.model declared) := by
    obtain ⟨rest, rfl⟩ := front
    rw [List.take_append_of_le_length room]
  have enough : ¬ p.length < wanted e.model declared := Nat.not_lt.2 room
  have enough' : ¬ q.length < wanted e.model declared := Nat.not_lt.2 (room.trans le)
  unfold ofPayload
  simp only [same, enough, enough', if_false, decide_false]

lemma isPartial_of_short (short : p.length < wanted e.model declared) :
    (ofPayload e declared p).isPartial = true := by
  simp [ofPayload, short]

/-- Header bytes whose id a registry holds give a dataset, whatever follows them. -/
lemma decode_of_header {registry : Registry} {i1 i0 : UInt8}
    (held : registry.get? (Registers.ofPair i1 i0) = some e) (n1 n0 : UInt8)
    (payload : List UInt8) :
    decode registry (i1 :: i0 :: n1 :: n0 :: payload) =
      .ok (ofPayload e (Registers.ofPair n1 n0) payload) := by
  simp [decode, Registry.get, held, bind, Except.bind, pure, Except.pure]

/-- **A cut shortens what is read and changes none of it.**  Off the front of some bytes, every
block, laid out or not, reads the first of what it reads off the bytes, and so does every model in
a registry behind the same header.  A front that holds the bytes that the model asks for gives the
same dataset, whatever follows it; one that does not is marked. -/
theorem decode_of_front (front : p <+: q) :
    (∀ b : Block, (b.read p).readings <+: (b.read q).readings) ∧
    ∀ (c : Catalogue) (registry : Registry), c.build = .ok registry →
      ∀ (i1 i0 n1 n0 : UInt8) (e : Entry), registry.get? (Registers.ofPair i1 i0) = some e →
        let declared := Registers.ofPair n1 n0
        let wanted := if e.model.hasRepeating then 2 * declared.toNat else 2 * e.model.len.toNat
        ∃ cut whole, decode registry (i1 :: i0 :: n1 :: n0 :: p) = .ok cut ∧
          decode registry (i1 :: i0 :: n1 :: n0 :: q) = .ok whole ∧
          cut.readings <+: whole.readings ∧ (wanted ≤ p.length → cut = whole) ∧
          (p.length < wanted → cut.isPartial = true) := by
  refine ⟨fun b => b.read_of_front front, ?_⟩
  intro c registry built i1 i0 n1 n0 e held declared wanted
  obtain ⟨mem, -⟩ := Registry.mem_of_get? held
  have laidOut := Registry.laidOut_of_build built mem
  have wanted_eq : wanted = Dataset.wanted e.model declared := by
    simp only [wanted, Dataset.wanted]
    split <;> rfl
  refine ⟨_, _, decode_of_header held n1 n0 p, decode_of_header held n1 n0 q, ?_, ?_, ?_⟩
  · exact readBlocks_of_front laidOut.once (front.take _)
  · intro room
    exact ofPayload_eq_of_front front (wanted_eq ▸ room)
  · intro short
    exact isPartial_of_short (wanted_eq ▸ short)

end Dataset

/-! ### The converter, cut

The registers of two inputs, cut inside the second one and behind it. -/

theorem Dataset.decode_of_front_converter :
    let bytes := Registers.toBytes converterRegisters
    bytes.take 30 <+: bytes ∧ bytes.take 36 <+: bytes ∧
      converterCatalogue.build = .ok converterRegistry ∧
      converterRegistry.get? (Registers.ofPair 0 160) = some laidConverter ∧
      ∃ cut enough whole,
        Dataset.decode converterRegistry (0 :: 160 :: 0 :: 18 :: bytes.take 30) = .ok cut ∧
        Dataset.decode converterRegistry (0 :: 160 :: 0 :: 18 :: bytes.take 36) = .ok enough ∧
        Dataset.decode converterRegistry (0 :: 160 :: 0 :: 18 :: bytes) = .ok whole ∧
        cut.readings <+: whole.readings ∧ cut.isPartial = true ∧ enough = whole ∧
        cut.readings.length = 6 ∧ whole.readings.length = 8 := by
  intro bytes
  have front (n : Nat) : bytes.take n <+: bytes := List.take_prefix n bytes
  have built : converterCatalogue.build = .ok converterRegistry := rfl
  have held : converterRegistry.get? (Registers.ofPair 0 160) = some laidConverter := rfl
  obtain ⟨cut, whole, read_cut, read_whole, shortened, -, marked⟩ :=
    (Dataset.decode_of_front (front 30)).2 _ _ built 0 160 0 18 _ held
  obtain ⟨enough, whole', read_enough, read_whole', -, same, -⟩ :=
    (Dataset.decode_of_front (front 36)).2 _ _ built 0 160 0 18 _ held
  have one : whole' = whole := Except.ok.inj (read_whole'.symm.trans read_whole)
  refine ⟨front 30, front 36, built, held, cut, enough, whole, read_cut, read_enough, read_whole,
    shortened, marked (by decide), (same (by decide)).trans one, ?_, ?_⟩
  · rw [Dataset.decode_of_header held] at read_cut
    cases read_cut
    decide
  · rw [Dataset.decode_of_header held] at read_whole
    cases read_whole
    decide

end SunSpec
