import SunSpec.DataBlock
import SunSpec.Proofs.Slots

/-!
# Where a data block is written

`DataBlock.plan` walks a model with a byte origin for each block and a cursor inside each instance.
`Model.LaidOut.placed_of_plan` says what a walk without a fault comes to: one placement for each
slot whose point can be written, in the order of the slots, each at the position of its slot.
`Model.LaidOut.refuses_of_plan` says the same of a walk that was stopped: it came to a slot whose
value cannot be placed there.

The image is made by laying these placements over zeros.  `getElem?_overlay_of_apart` and
`getElem?_overlay_of_mem` say what one overlay does outside and inside its bytes; where placements
keep apart, as they do by `Model.LaidOut.pairwise_slots`, every field of the image holds the bytes
of its own placement (`field_payload_of_mem`) or zeros (`field_payload_of_apart`).
-/

namespace SunSpec

/-! ## Overlays -/

@[simp] lemma size_overlay (image : Array UInt8) (start : Nat) (bs : List UInt8) :
    (overlay image start bs).size = image.size := by
  induction bs generalizing image start with
  | nil => rfl
  | cons b bs ih => rw [overlay, ih, Array.size_setIfInBounds]

/-- Bytes in front of an overlay and behind it stay. -/
lemma getElem?_overlay_of_apart {image : Array UInt8} {start i : Nat} {bs : List UInt8}
    (apart : i < start ∨ start + bs.length ≤ i) : (overlay image start bs)[i]? = image[i]? := by
  induction bs generalizing image start with
  | nil => rfl
  | cons b bs ih =>
    rw [List.length_cons] at apart
    rw [overlay, ih (by omega), Array.getElem?_setIfInBounds_ne (by omega)]

/-- Inside an overlay its own bytes stand. -/
lemma getElem?_overlay_of_mem {image : Array UInt8} {start j : Nat} {bs : List UInt8}
    (room : start + bs.length ≤ image.size) (inside : j < bs.length) :
    (overlay image start bs)[start + j]? = bs[j]? := by
  induction bs generalizing image start j with
  | nil => cases inside
  | cons b bs ih =>
    rw [List.length_cons] at room inside
    rw [overlay]
    cases j with
    | zero =>
      rw [getElem?_overlay_of_apart (by omega), Nat.add_zero,
        Array.getElem?_setIfInBounds_self_of_lt (by omega)]
      rfl
    | succ j =>
      have next : start + (j + 1) = start + 1 + j := by omega
      rw [next, ih (by rw [Array.size_setIfInBounds]; omega) (by omega)]
      rfl

namespace Placement

/-- The slot that is written. -/
def slot (q : Placement) : Slot := ⟨q.point, q.index⟩

/-- Position behind the last byte. -/
def stop (q : Placement) : Nat := q.start + q.bytes.length

/-- The image with placements laid over it. -/
def layOver (image : Array UInt8) (qs : List Placement) : Array UInt8 :=
  qs.foldl (fun image q => overlay image q.start q.bytes) image

@[simp] lemma layOver_cons (image : Array UInt8) (q : Placement) (qs : List Placement) :
    layOver image (q :: qs) = layOver (overlay image q.start q.bytes) qs := rfl

@[simp] lemma size_layOver (image : Array UInt8) (qs : List Placement) :
    (layOver image qs).size = image.size := by
  induction qs generalizing image with
  | nil => rfl
  | cons q qs ih => rw [layOver_cons, ih, size_overlay]

lemma getElem?_layOver_of_apart {image : Array UInt8} {qs : List Placement} {i : Nat}
    (apart : ∀ q ∈ qs, i < q.start ∨ q.stop ≤ i) : (layOver image qs)[i]? = image[i]? := by
  induction qs generalizing image with
  | nil => rfl
  | cons q qs ih =>
    obtain ⟨head, tail⟩ := List.forall_mem_cons.1 apart
    rw [layOver_cons, ih tail, getElem?_overlay_of_apart head]

/-- Placements that follow each other do not disturb each other. -/
lemma getElem?_layOver_of_mem {image : Array UInt8} {qs : List Placement}
    (ordered : qs.Pairwise fun q r => q.stop ≤ r.start) (room : ∀ q ∈ qs, q.stop ≤ image.size)
    {q : Placement} (hq : q ∈ qs) {j : Nat} (inside : j < q.bytes.length) :
    (layOver image qs)[q.start + j]? = q.bytes[j]? := by
  induction qs generalizing image with
  | nil => cases hq
  | cons r qs ih =>
    obtain ⟨head, tail⟩ := List.pairwise_cons.1 ordered
    obtain ⟨fits, rest⟩ := List.forall_mem_cons.1 room
    rw [layOver_cons]
    rcases List.mem_cons.1 hq with rfl | hq
    · have untouched : ∀ s ∈ qs, q.start + j < s.start ∨ s.stop ≤ q.start + j := by
        intro s hs
        have behind := head s hs
        simp only [stop] at behind
        omega
      rw [getElem?_layOver_of_apart untouched, getElem?_overlay_of_mem fits inside]
    · exact ih tail (by simpa using rest) hq

end Placement

namespace DataBlock

lemma payload_eq (declared : UInt16) (qs : List Placement) :
    payload declared qs =
      (Placement.layOver (Array.replicate (2 * declared.toNat) 0) qs).toList := rfl

lemma length_payload (declared : UInt16) (qs : List Placement) :
    (payload declared qs).length = 2 * declared.toNat := by
  rw [payload_eq, Array.length_toList, Placement.size_layOver, Array.size_replicate]

/-- The field of a placement holds its bytes. -/
lemma field_payload_of_mem {declared : UInt16} {qs : List Placement}
    (ordered : qs.Pairwise fun q r => q.stop ≤ r.start)
    (room : ∀ q ∈ qs, q.stop ≤ 2 * declared.toNat) {q : Placement} (hq : q ∈ qs) :
    ((payload declared qs).drop q.start).take q.bytes.length = q.bytes := by
  have fits := room q hq
  refine List.ext_getElem? fun j => ?_
  by_cases inside : j < q.bytes.length
  · rw [List.getElem?_take, if_pos inside, List.getElem?_drop, payload_eq, Array.getElem?_toList]
    exact Placement.getElem?_layOver_of_mem ordered (by simpa using room) hq inside
  · rw [List.getElem?_take, if_neg inside, List.getElem?_eq_none (by omega)]

/-- A field that no placement touches holds zeros. -/
lemma field_payload_of_apart {declared : UInt16} {qs : List Placement} {start size : Nat}
    (room : start + size ≤ 2 * declared.toNat)
    (apart : ∀ q ∈ qs, start + size ≤ q.start ∨ q.stop ≤ start) :
    ((payload declared qs).drop start).take size = List.replicate size 0 := by
  refine List.ext_getElem? fun j => ?_
  by_cases inside : j < size
  · have untouched : ∀ q ∈ qs, start + j < q.start ∨ q.stop ≤ start + j := by
      intro q hq
      have := apart q hq
      omega
    rw [List.getElem?_take, if_pos inside, List.getElem?_drop, payload_eq, Array.getElem?_toList,
      Placement.getElem?_layOver_of_apart untouched, Array.getElem?_replicate,
      List.getElem?_replicate, if_pos (by omega), if_pos inside]
  · rw [List.getElem?_take, if_neg inside,
      List.getElem?_eq_none (by rw [List.length_replicate]; omega)]

end DataBlock

/-! ## The walk over a model -/

/-- A result of two steps is one of the second, on a result of the first. -/
lemma exists_of_bind_eq_ok {ε α β : Type} {x : Except ε α} {f : α → Except ε β} {b : β}
    (h : x >>= f = .ok b) : ∃ a, x = .ok a ∧ f a = .ok b := by
  cases x with
  | error e => cases h
  | ok a => exact ⟨a, rfl, h⟩

/-- A slot whose point can be written. -/
def Slot.isWritten (s : Slot) : Bool := s.point.encoding.type.isEncodable

/-- What the steps of a walk write, in their order. -/
def placementsOf (steps : Array PlanStep) : List Placement := Plan.placements ⟨steps, none⟩

lemma placementsOf_push_placed (steps : Array PlanStep) (q : Placement) :
    placementsOf (steps.push (.placed q)) = placementsOf steps ++ [q] := by
  simp [placementsOf, Plan.placements]

lemma placementsOf_push_leftZero (steps : Array PlanStep) (p : Point) :
    placementsOf (steps.push (.leftZero p)) = placementsOf steps := by
  simp [placementsOf, Plan.placements]

namespace DataBlock

variable {d : DataBlock} {m : Model} {available : Nat}

/-- A placement that the data block makes at the position of its slot. -/
def Placed (d : DataBlock) (m : Model) (available : Nat) (q : Placement) : Prop :=
  d.place available q.index q.point (m.position q.slot) = .ok q

/-- The steps behind `before` are those of a walk over slots: they place each slot that can be
written. -/
def Walked (d : DataBlock) (m : Model) (available : Nat) (before after : Array PlanStep)
    (slots : List Slot) : Prop :=
  ∃ qs, placementsOf after = placementsOf before ++ qs ∧
    qs.map Placement.slot = slots.filter Slot.isWritten ∧ ∀ q ∈ qs, d.Placed m available q

namespace Walked

variable {before middle after : Array PlanStep} {s : Slot} {slots rest : List Slot}

lemma nil : d.Walked m available before before [] := ⟨[], by simp, rfl, by simp⟩

lemma append (head : d.Walked m available before middle slots)
    (tail : d.Walked m available middle after rest) :
    d.Walked m available before after (slots ++ rest) := by
  obtain ⟨qs, placements, covered, placed⟩ := head
  obtain ⟨rs, placements', covered', placed'⟩ := tail
  refine ⟨qs ++ rs, ?_, ?_, ?_⟩
  · rw [placements', placements, List.append_assoc]
  · rw [List.map_append, List.filter_append, covered, covered']
  · exact List.forall_mem_append.2 ⟨placed, placed'⟩

lemma left (unwritten : s.isWritten = false)
    (same : placementsOf after = placementsOf before) :
    d.Walked m available before after [s] :=
  ⟨[], by simp [same], by simp [unwritten], by simp⟩

lemma placed {q : Placement} (written : s.isWritten = true) (slot : q.slot = s)
    (h : d.Placed m available q) : d.Walked m available before (before.push (.placed q)) [s] :=
  ⟨[q], placementsOf_push_placed before q, by simp [written, slot], by simpa using h⟩

end Walked

/-- The value of a slot, in the form in which its point takes it. -/
def valueAt (d : DataBlock) (s : Slot) : Except Fault Value :=
  match d.valueFor s.point.name s.index with
  | some v => v.fitTo s.point
  | none => .ok (.sentinel s.point.encoding)

/-- What a placement is made of. -/
lemma place_ok {index : Option Nat} {p : Point} {start : Nat} {q : Placement}
    (h : d.place available index p start = .ok q) :
    q.slot = ⟨p, index⟩ ∧ q.start = start ∧ d.valueAt q.slot = .ok q.value ∧
      start + p.size ≤ available ∧ Codec.encodeWithin p.size q.value = .ok q.bytes := by
  -- what is done with a value, wherever it is from
  have put : ∀ v, d.valueAt ⟨p, index⟩ = .ok v →
      (do
        if available < start + p.size then throw (.insufficientSpace (start + p.size) available)
        let bytes ← Codec.encodeWithin p.size v
        return (⟨p, index, v, start, bytes⟩ : Placement)) = Except.ok q →
      q.slot = ⟨p, index⟩ ∧ q.start = start ∧ d.valueAt q.slot = .ok q.value ∧
        start + p.size ≤ available ∧ Codec.encodeWithin p.size q.value = .ok q.bytes := by
    intro v value h
    by_cases short : available < start + p.size
    · rw [if_pos short] at h
      cases h
    · rw [if_neg short] at h
      obtain ⟨bytes, written, eq⟩ := exists_of_bind_eq_ok h
      cases eq
      exact ⟨rfl, rfl, value, not_lt.1 short, written⟩
  unfold place at h
  unfold valueAt at put
  cases given : d.valueFor p.name index with
  | none =>
    simp only [given] at h put
    exact put _ rfl h
  | some v =>
    simp only [given] at h put
    obtain ⟨value, fitted, h⟩ := exists_of_bind_eq_ok h
    exact put value fitted h

/-- A value that can be written is placed where there is room for its point. -/
lemma place_of_valueAt {index : Option Nat} {p : Point} {start : Nat} {v : Value}
    {bytes : List UInt8} (value : d.valueAt ⟨p, index⟩ = .ok v) (room : start + p.size ≤ available)
    (written : Codec.encodeWithin p.size v = .ok bytes) :
    d.place available index p start = .ok ⟨p, index, v, start, bytes⟩ := by
  unfold valueAt at value
  unfold place
  cases given : d.valueFor p.name index with
  | none =>
    simp only [given] at value
    cases value
    simp only [bind, Except.bind, if_neg (not_lt.2 room), written, pure, Except.pure]
  | some g =>
    simp only [given] at value
    simp only [value, bind, Except.bind, if_neg (not_lt.2 room), written, pure, Except.pure]

/-- The points of one instance are walked at their positions. -/
lemma walked_of_planPoints {b : Block} {first : Nat} (laid : b.PlacedAt first) {index : Option Nat}
    {origin : Nat} {ps : List Point} (sub : ∀ p ∈ ps, p ∈ b.points)
    (position : ∀ p ∈ ps, m.position ⟨p, index⟩ = origin + 2 * (p.first - first))
    {steps : Array PlanStep} {cursor : Nat}
    (h : (d.planPoints available b index origin steps cursor ps).fault = none) :
    d.Walked m available steps (d.planPoints available b index origin steps cursor ps).steps
      (ps.map fun p => ⟨p, index⟩) := by
  induction ps generalizing steps cursor with
  | nil => exact .nil
  | cons p ps ih =>
    have ih := @ih (fun q hq => sub q (List.mem_cons_of_mem _ hq))
      (fun q hq => position q (List.mem_cons_of_mem _ hq))
    have positionOf := laid.positionOf_eq (sub p List.mem_cons_self) cursor
    have here := position p List.mem_cons_self
    rw [List.map_cons]
    unfold planPoints at h ⊢
    by_cases skipped : p.isSkipped = true
    · rw [if_pos skipped] at h ⊢
      have unwritten : Slot.isWritten ⟨p, index⟩ = false := by
        simp_all [Slot.isWritten, PointType.isEncodable, Point.isSkipped]
      exact (Walked.left unwritten rfl).append (ih h)
    · rw [if_neg skipped] at h ⊢
      by_cases wide : p.encoding.type.is64Bit = true
      · simp only [wide, if_true] at h ⊢
        have unwritten : Slot.isWritten ⟨p, index⟩ = false := by
          simp [Slot.isWritten, PointType.isEncodable, wide]
        refine (Walked.left unwritten ?_).append (ih h)
        split
        · exact placementsOf_push_leftZero steps p
        · rfl
      · simp only [wide, positionOf, ← here] at h ⊢
        cases hq : d.place available index p (m.position ⟨p, index⟩) with
        | error f => simp [hq] at h
        | ok q =>
          simp only [hq] at h ⊢
          have written : Slot.isWritten ⟨p, index⟩ = true := by
            simp_all [Slot.isWritten, PointType.isEncodable, Point.isSkipped]
          have slot := (place_ok hq).1
          have placed : d.Placed m available q := by
            obtain ⟨rfl, rfl⟩ := Slot.mk.inj slot
            exact hq
          exact (Walked.placed written slot placed).append (ih h)

/-- The instances of a block are walked one behind the other. -/
lemma walked_of_planInstances {b : Block} {first : Nat} (laid : b.PlacedAt first) {origin : Nat}
    {count k : Nat}
    (position : ∀ j < k + count, ∀ p ∈ b.points,
      m.position ⟨p, if b.repeating then some j else none⟩ =
        origin + j * b.unit + 2 * (p.first - first))
    {steps : Array PlanStep}
    (h : (d.planInstances available b origin steps count k).fault = none) :
    d.Walked m available steps (d.planInstances available b origin steps count k).steps
      ((List.range' k count).flatMap fun j =>
        b.points.map fun p => ⟨p, if b.repeating then some j else none⟩) := by
  induction count generalizing k steps with
  | zero => exact .nil
  | succ count ih =>
    unfold planInstances at h ⊢
    rw [List.range'_succ, List.flatMap_cons]
    dsimp only at h ⊢
    cases hf : (d.planPoints available b (if b.repeating then some k else none)
        (origin + k * b.unit) steps 0 b.points).fault with
    | some f => simp [hf] at h
    | none =>
      simp only [hf] at h ⊢
      have head := walked_of_planPoints laid (fun _ hp => hp) (position k (by omega)) hf
      exact head.append (ih (fun j lt => position j (by omega)) h)

/-- Where a block repeats only if it is the last, nothing stands behind one that does. -/
lemma once_tail {b : Block} {bs : List Block}
    (once : ∀ c ∈ (b :: bs).dropLast, c.repeating = false) :
    (b.repeating = true → bs = []) ∧ ∀ c ∈ bs.dropLast, c.repeating = false := by
  cases bs with
  | nil => simp
  | cons c cs =>
    rw [List.dropLast_cons_of_ne_nil (List.cons_ne_nil c cs)] at once
    obtain ⟨fixed, rest⟩ := List.forall_mem_cons.1 once
    refine ⟨fun repeating => ?_, rest⟩
    rw [fixed] at repeating
    cases repeating

/-- The position of a slot, counted from the start of its block. -/
lemma position_eq {b : Block} {first : Nat} (laid : b.PlacedAt first)
    (behind : firstDataOffset ≤ first)
    (unit : b.repeating = true → b.len.toNat = m.repeatLen.toNat) {j : Nat}
    (single : b.repeating = false → j = 0) {p : Point} (hp : p ∈ b.points) :
    m.position ⟨p, if b.repeating then some j else none⟩ =
      2 * (first - firstDataOffset) + j * b.unit + 2 * (p.first - first) := by
  have le := laid.first_le hp
  cases hr : b.repeating with
  | true =>
    have shift : 2 * j * m.repeatLen.toNat = j * b.unit := by
      rw [Block.unit, unit hr]
      ring
    simp only [Model.position, if_true, Option.getD_some, shift]
    omega
  | false =>
    simp only [Model.position, Bool.false_eq_true, if_false, Option.getD_none, single hr]
    omega

/-- The same of every slot of the block. -/
lemma positions_eq {b : Block} {first : Nat} (laid : b.PlacedAt first)
    (behind : firstDataOffset ≤ first)
    (unit : b.repeating = true → b.len.toNat = m.repeatLen.toNat) (repeats : Nat) :
    ∀ j < 0 + (if b.repeating then repeats else 1), ∀ p ∈ b.points,
      m.position ⟨p, if b.repeating then some j else none⟩ =
        2 * (first - firstDataOffset) + j * b.unit + 2 * (p.first - first) := by
  intro j lt p hp
  refine position_eq laid behind unit (fun fixed => ?_) hp
  simpa [fixed] using lt

/-- The blocks of a model are walked one behind the other. -/
lemma walked_of_planBlocks {first last : Nat} {bs : List Block} (tiled : Layout.Tiled first bs last)
    (behind : firstDataOffset ≤ first) (once : ∀ b ∈ bs.dropLast, b.repeating = false)
    (unit : ∀ b ∈ bs, b.repeating = true → b.len.toNat = m.repeatLen.toNat) {repeats : Nat}
    {steps : Array PlanStep}
    (h : (d.planBlocks available repeats (2 * (first - firstDataOffset)) steps bs).fault = none) :
    d.Walked m available steps
      (d.planBlocks available repeats (2 * (first - firstDataOffset)) steps bs).steps
      (bs.flatMap (·.slots repeats)) := by
  induction tiled generalizing steps with
  | nil => exact .nil
  | @cons first last b bs laid rest ih =>
    obtain ⟨alone, once⟩ := once_tail once
    unfold planBlocks at h ⊢
    rw [List.flatMap_cons]
    dsimp only at h ⊢
    cases hf : (d.planInstances available b (2 * (first - firstDataOffset)) steps
        (if b.repeating then repeats else 1) 0).fault with
    | some f => simp [hf] at h
    | none =>
      simp only [hf] at h ⊢
      have position := positions_eq laid behind (unit b List.mem_cons_self) repeats
      have head := walked_of_planInstances laid position hf
      rw [← Block.slots_eq] at head
      refine head.append ?_
      cases hr : b.repeating with
      | true =>
        obtain rfl := alone hr
        exact .nil
      | false =>
        have next : 2 * (first - firstDataOffset) + 1 * b.unit =
            2 * (first + b.len.toNat - firstDataOffset) := by
          rw [Block.unit]
          omega
        simp only [hr, Bool.false_eq_true, if_false, next] at h ⊢
        exact ih (by omega) once (fun c hc => unit c (List.mem_cons_of_mem b hc)) h

end DataBlock

/-- A walk without a fault places each slot that can be written, in order, at its position. -/
theorem Model.LaidOut.placed_of_plan {m : Model} (laidOut : m.LaidOut) {d : DataBlock}
    {declared : UInt16} (h : (d.plan m declared).fault = none) :
    (d.plan m declared).placements.map Placement.slot =
        (m.slots (d.instances m)).filter Slot.isWritten ∧
      ∀ q ∈ (d.plan m declared).placements, d.Placed m (2 * declared.toNat) q := by
  have unit : ∀ b ∈ m.blocks, b.repeating = true → b.len.toNat = m.repeatLen.toNat :=
    fun b hb hr => (laidOut.repeatLen_of_repeating (laidOut.repeatingBlock?_of_mem hb hr)).symm
  obtain ⟨qs, placements, slots, placed⟩ :=
    DataBlock.walked_of_planBlocks laidOut.tiled le_rfl laidOut.once unit h
  have eq : (d.plan m declared).placements = qs := placements
  rw [eq]
  exact ⟨slots, placed⟩

/-- Placements that begin at the positions of their slots and fill the fields of their points
follow each other. -/
lemma Model.LaidOut.pairwise_placements {m : Model} (laidOut : m.LaidOut) (orderly : m.Orderly)
    {count : Nat} {qs : List Placement}
    (slots : qs.map Placement.slot = (m.slots count).filter Slot.isWritten)
    (fill : ∀ q ∈ qs, q.start = m.position q.slot ∧ q.bytes.length = q.slot.point.size) :
    qs.Pairwise fun q r => q.stop ≤ r.start := by
  have apart := (laidOut.pairwise_slots orderly count).filter Slot.isWritten
  rw [← slots, List.pairwise_map] at apart
  refine apart.imp_of_mem fun {q r} hq hr le => ?_
  obtain ⟨start, length⟩ := fill q hq
  have size := q.slot.point.size_le_registers
  rw [Placement.stop, start, length, (fill r hr).1]
  omega

/-! ## What stops a walk -/

namespace DataBlock

variable {d : DataBlock} {m : Model} {available : Nat} {f : Fault}

/-- The point of a slot can be written, but not with the value that it has here. -/
def Refuses (d : DataBlock) (m : Model) (available : Nat) (s : Slot) (f : Fault) : Prop :=
  s.isWritten = true ∧ d.place available s.index s.point (m.position s) = .error f

lemma refuses_of_planPoints {b : Block} {first : Nat} (laid : b.PlacedAt first)
    {index : Option Nat} {origin : Nat} {ps : List Point} (sub : ∀ p ∈ ps, p ∈ b.points)
    (position : ∀ p ∈ ps, m.position ⟨p, index⟩ = origin + 2 * (p.first - first))
    {steps : Array PlanStep} {cursor : Nat}
    (h : (d.planPoints available b index origin steps cursor ps).fault = some f) :
    ∃ p ∈ ps, d.Refuses m available ⟨p, index⟩ f := by
  induction ps generalizing steps cursor with
  | nil => cases h
  | cons p ps ih =>
    have later : (∃ q ∈ ps, d.Refuses m available ⟨q, index⟩ f) →
        ∃ q ∈ p :: ps, d.Refuses m available ⟨q, index⟩ f :=
      fun ⟨q, hq, refuses⟩ => ⟨q, List.mem_cons_of_mem p hq, refuses⟩
    have ih := @ih (fun q hq => sub q (List.mem_cons_of_mem _ hq))
      (fun q hq => position q (List.mem_cons_of_mem _ hq))
    have positionOf := laid.positionOf_eq (sub p List.mem_cons_self) cursor
    have here := position p List.mem_cons_self
    unfold planPoints at h
    by_cases skipped : p.isSkipped = true
    · rw [if_pos skipped] at h
      exact later (ih h)
    · rw [if_neg skipped] at h
      by_cases wide : p.encoding.type.is64Bit = true
      · simp only [wide, if_true] at h
        exact later (ih h)
      · simp only [wide, positionOf, ← here, Bool.false_eq_true, if_false] at h
        cases hq : d.place available index p (m.position ⟨p, index⟩) with
        | error fault =>
          simp only [hq, Option.some.injEq] at h
          have written : Slot.isWritten ⟨p, index⟩ = true := by
            simp_all [Slot.isWritten, PointType.isEncodable, Point.isSkipped]
          exact ⟨p, List.mem_cons_self, written, h ▸ hq⟩
        | ok q =>
          simp only [hq] at h
          exact later (ih h)

lemma refuses_of_planInstances {b : Block} {first : Nat} (laid : b.PlacedAt first) {origin : Nat}
    {count k : Nat}
    (position : ∀ j < k + count, ∀ p ∈ b.points,
      m.position ⟨p, if b.repeating then some j else none⟩ =
        origin + j * b.unit + 2 * (p.first - first))
    {steps : Array PlanStep}
    (h : (d.planInstances available b origin steps count k).fault = some f) :
    ∃ s ∈ (List.range' k count).flatMap fun j =>
        b.points.map fun p => (⟨p, if b.repeating then some j else none⟩ : Slot),
      d.Refuses m available s f := by
  induction count generalizing k steps with
  | zero => cases h
  | succ count ih =>
    unfold planInstances at h
    rw [List.range'_succ, List.flatMap_cons]
    dsimp only at h
    cases hf : (d.planPoints available b (if b.repeating then some k else none)
        (origin + k * b.unit) steps 0 b.points).fault with
    | some fault =>
      simp only [hf, Option.some.injEq] at h
      obtain ⟨p, hp, refuses⟩ :=
        refuses_of_planPoints laid (fun _ hp => hp) (position k (by omega)) (h ▸ hf)
      exact ⟨_, List.mem_append_left _ (List.mem_map_of_mem hp), refuses⟩
    | none =>
      simp only [hf] at h
      obtain ⟨s, hs, refuses⟩ := ih (fun j lt => position j (by omega)) h
      exact ⟨s, List.mem_append_right _ hs, refuses⟩

lemma refuses_of_planBlocks {first last : Nat} {bs : List Block}
    (tiled : Layout.Tiled first bs last) (behind : firstDataOffset ≤ first)
    (once : ∀ b ∈ bs.dropLast, b.repeating = false)
    (unit : ∀ b ∈ bs, b.repeating = true → b.len.toNat = m.repeatLen.toNat) {repeats : Nat}
    {steps : Array PlanStep}
    (h : (d.planBlocks available repeats (2 * (first - firstDataOffset)) steps bs).fault =
      some f) :
    ∃ s ∈ bs.flatMap (·.slots repeats), d.Refuses m available s f := by
  induction tiled generalizing steps with
  | nil => cases h
  | @cons first last b bs laid rest ih =>
    obtain ⟨alone, once⟩ := once_tail once
    unfold planBlocks at h
    rw [List.flatMap_cons]
    dsimp only at h
    cases hf : (d.planInstances available b (2 * (first - firstDataOffset)) steps
        (if b.repeating then repeats else 1) 0).fault with
    | some fault =>
      simp only [hf, Option.some.injEq] at h
      have position := positions_eq laid behind (unit b List.mem_cons_self) repeats
      obtain ⟨s, hs, refuses⟩ := refuses_of_planInstances laid position (h ▸ hf)
      rw [← Block.slots_eq] at hs
      exact ⟨s, List.mem_append_left _ hs, refuses⟩
    | none =>
      simp only [hf] at h
      cases hr : b.repeating with
      | true =>
        obtain rfl := alone hr
        cases h
      | false =>
        have next : 2 * (first - firstDataOffset) + 1 * b.unit =
            2 * (first + b.len.toNat - firstDataOffset) := by
          rw [Block.unit]
          omega
        simp only [hr, Bool.false_eq_true, if_false, next] at h
        obtain ⟨s, hs, refuses⟩ :=
          ih (by omega) once (fun c hc => unit c (List.mem_cons_of_mem b hc)) h
        exact ⟨s, List.mem_append_right _ hs, refuses⟩

end DataBlock

/-- A walk is stopped by a slot that cannot be placed, and by nothing else. -/
theorem Model.LaidOut.refuses_of_plan {m : Model} (laidOut : m.LaidOut) {d : DataBlock}
    {declared : UInt16} {f : Fault} (h : (d.plan m declared).fault = some f) :
    ∃ s ∈ m.slots (d.instances m), d.Refuses m (2 * declared.toNat) s f := by
  have unit : ∀ b ∈ m.blocks, b.repeating = true → b.len.toNat = m.repeatLen.toNat :=
    fun b hb hr => (laidOut.repeatLen_of_repeating (laidOut.repeatingBlock?_of_mem hb hr)).symm
  exact DataBlock.refuses_of_planBlocks laidOut.tiled le_rfl laidOut.once unit h

/-- So it comes to its end where each slot that can be written has a placement. -/
lemma Model.LaidOut.unstopped_of_place {m : Model} (laidOut : m.LaidOut) {d : DataBlock}
    {declared : UInt16} (placed : ∀ s ∈ m.slots (d.instances m), s.isWritten = true →
      ∃ q, d.place (2 * declared.toNat) s.index s.point (m.position s) = .ok q) :
    (d.plan m declared).fault = none := by
  cases stopped : (d.plan m declared).fault with
  | none => rfl
  | some f =>
    obtain ⟨s, hs, written, refused⟩ := laidOut.refuses_of_plan stopped
    obtain ⟨q, eq⟩ := placed s hs written
    rw [eq] at refused
    cases refused

end SunSpec
