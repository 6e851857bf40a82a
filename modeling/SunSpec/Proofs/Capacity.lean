import SunSpec.Proofs.Representation
import SunSpec.Proofs.WriteBack

/-!
# How much an instance can hold

A header declares the length of a payload in one register, so there is one bound on what a data
block may repeat.  This file says that it is the only obstacle: where the values that are supplied
are of the types of their points and hold something (`DataBlock.Supplies`), each slot has a value
that can be written (`DataBlock.exists_placement`) and room for it
(`Model.LaidOut.plan_unstopped`), so that the writer fails for the length alone and then says which
of the two counts was too large.

The lengths that come out are those that a reader admits, in a model that was laid out: there
neither the writer nor the check of a length takes a negative difference of registers, nor a
remainder by zero.
-/

namespace SunSpec

/-- Each value for a point that has a wire form is of the type of the point and holds something. -/
def DataBlock.Supplies (d : DataBlock) (m : Model) : Prop :=
  ∀ g ∈ d.values, ∀ p ∈ m.points, p.name = g.point → p.isSkipped = false →
    g.value.type = p.encoding.type ∧ g.value.payload ≠ .none

/-- What is wrong with a payload of more registers than a header can declare: they cannot even be
counted in 64 bits, or they cannot be declared. -/
def DataBlock.excess (d : DataBlock) (registers : Nat) : Fault :=
  if UInt64.size ≤ registers then .tooManyRepeats d.name d.repeats.toNat
  else .tooManyRegisters d.name registers

/-! ## Values that can be written -/

namespace Value

variable {v : Value} {p : Point}

lemma payload_fillString_ne_none (v : Value) (bs : List UInt8) (len : UInt16) :
    (v.fillString bs len).payload ≠ .none := by
  rw [fillString_eq, payload_ofPayload]
  exact Payload.noConfusion

/-- A value of the type of a point is taken by the point, and still holds something. -/
lemma exists_fitTo (made : v.Made) (type : v.type = p.encoding.type) (held : v.payload ≠ .none) :
    ∃ w, v.fitTo p = .ok w ∧ w.payload ≠ .none := by
  unfold fitTo
  rw [if_neg (not_not.2 type)]
  by_cases refit : v.type = .string ∧ v.encoding ≠ p.encoding
  · rw [if_pos refit]
    have isOf := (inStep_of_made made).isOf held
    rw [refit.1] at isOf
    -- a string is cut to the length of the field, as text if it is one
    obtain ⟨wire, payload⟩ : ∃ wire, v.payload = .string wire := by
      generalize v.payload = payload at isOf
      cases isOf
      exact ⟨_, rfl⟩
    have bytes : v.stringBytes = .ok wire := by
      rw [stringBytes, read, if_pos refit.1, payload]
      rfl
    rw [bytes]
    refine ⟨_, rfl, ?_⟩
    dsimp only
    split
    · exact payload_fillString_ne_none _ _ _
    · exact payload_fillString_ne_none _ _ _
  · rw [if_neg refit]
    exact ⟨v, rfl, held⟩

lemma payload_sentinel_ne_none {e : Encoding} (wire : e.type.isSkipped = false) :
    (sentinel e).payload ≠ .none := by
  obtain ⟨t, len⟩ := e
  cases t with
  | null | undef => cases wire
  | string => exact payload_fillString_ne_none _ _ _
  | _ => exact Payload.noConfusion

/-- A value that suits a point and holds something can be written, if the type can. -/
lemma exists_encodeWithin (suits : v.Suits p) (held : v.payload ≠ .none)
    (encodable : p.encoding.type.isEncodable = true) :
    ∃ bytes, Codec.encodeWithin p.size v = .ok bytes := by
  obtain ⟨wellFormed, type, size⟩ := suits
  cases wellFormed with
  | undefined e => exact absurd rfl held
  | @ofPayload e payload fits =>
    obtain ⟨length, read⟩ := fits
    have same : e.type = p.encoding.type := type
    rw [← same] at encodable
    have written := Codec.encodeWithin_ofPayload encodable length (le_of_eq size)
    rw [read] at written
    exact ⟨_, written⟩

end Value

namespace DataBlock

variable {d : DataBlock} {m : Model}

/-- The value of a slot is taken by its point, and holds something. -/
lemma exists_valueAt (made : ∀ g ∈ d.values, g.value.Made) (supplies : d.Supplies m) {s : Slot}
    (point : s.point ∈ m.points) (wire : s.point.isSkipped = false) :
    ∃ v, d.valueAt s = .ok v ∧ v.payload ≠ .none := by
  unfold valueAt valueFor
  cases found : d.values.reverse.find? fun g => g.covers s.point.name s.index with
  | none => exact ⟨_, rfl, Value.payload_sentinel_ne_none wire⟩
  | some g =>
    have mem : g ∈ d.values := List.mem_reverse.1 (List.mem_of_find?_eq_some found)
    have covers := List.find?_some found
    have name : g.point = s.point.name := (PointValue.covers_iff.1 covers).1
    obtain ⟨type, held⟩ := supplies g mem s.point point name.symm wire
    exact Value.exists_fitTo (made g mem) type held

/-- Each slot that can be written has a placement wherever there is room for its point. -/
lemma exists_placement (made : ∀ g ∈ d.values, g.value.Made) (supplies : d.Supplies m) {s : Slot}
    (point : s.point ∈ m.points) (written : s.isWritten = true) {available start : Nat}
    (room : start + s.point.size ≤ available) :
    ∃ q, d.place available s.index s.point start = .ok q := by
  have wire : s.point.isSkipped = false := PointType.isSkipped_of_isEncodable written
  obtain ⟨v, value, held⟩ := exists_valueAt made supplies point wire
  obtain ⟨bytes, encoded⟩ :=
    Value.exists_encodeWithin (shows_of_valueAt made value).1 held written
  exact ⟨_, place_of_valueAt value room encoded⟩

/-! ## The length of a payload -/

lemma payloadRegisters_of_gt
    (gt : 65535 < m.baseLen.toNat + d.instances m * m.repeatLen.toNat) :
    d.payloadRegisters m =
      .error (d.excess (m.baseLen.toNat + d.instances m * m.repeatLen.toNat)) := by
  unfold payloadRegisters excess
  rw [Nat.add_comm] at gt ⊢
  dsimp only
  by_cases large : UInt64.size ≤ d.instances m * m.repeatLen.toNat + m.baseLen.toNat
  · rw [if_pos large, if_pos large]
  · rw [if_neg large, if_neg large, if_neg (by omega)]

lemma kind_excess (d : DataBlock) (registers : Nat) : (d.excess registers).kind = .definition := by
  unfold excess
  split
  · rfl
  · rfl

end DataBlock

namespace Model

variable {m : Model}

lemma repeatLen_of_flat (flat : m.hasRepeating = false) : m.repeatLen.toNat = 0 := by
  have same := baseLen_eq_len flat
  rw [repeatLen_of_le (UInt16.le_of_eq same), same, UInt16.sub_self]
  rfl

namespace LaidOut

/-- The instances that a data block repeats take the same registers whether or not a repeating
block without a length is counted as one. -/
lemma instances_mul_repeatLen (h : m.LaidOut) (d : DataBlock) :
    d.instances m * m.repeatLen.toNat =
      (if m.repeatingBlock?.isSome then d.repeats.toNat else 0) * m.repeatLen.toNat := by
  cases hr : m.hasRepeating with
  | true =>
    obtain ⟨b, hb, -⟩ := h.hasRepeating_iff.1 hr
    rw [DataBlock.instances, if_pos hr, hb]
    rfl
  | false => rw [repeatLen_of_flat hr, Nat.mul_zero, Nat.mul_zero]

/-- Where values are as they should be, nothing stops the writer. -/
lemma plan_unstopped (laidOut : m.LaidOut) (ordered : ∀ b ∈ m.blocks, b.InOrder) {d : DataBlock}
    (made : ∀ g ∈ d.values, g.value.Made) (supplies : d.Supplies m) {declared : UInt16}
    (counted : declared.toNat = m.baseLen.toNat + d.instances m * m.repeatLen.toNat) :
    (d.plan m declared).fault = none := by
  refine laidOut.unstopped_of_place fun s hs written => ?_
  obtain ⟨b, hb, hp, -⟩ := exists_block_of_mem_slots hs
  have point : s.point ∈ m.points := List.mem_flatMap_of_mem hb hp
  have field := (laidOut.field_le ordered hs).2
  have size := s.point.size_le_registers
  rw [← counted] at field
  exact DataBlock.exists_placement made supplies point written (by omega)

end LaidOut

end Model

namespace DataBlock

variable {d : DataBlock} {e : Entry}

/-- What is written of a data block whose registers can be declared. -/
lemma encode_of_counted (laidOut : e.model.LaidOut) (ordered : ∀ b ∈ e.model.blocks, b.InOrder)
    (made : ∀ g ∈ d.values, g.value.Made) (supplies : d.Supplies e.model) {declared : UInt16}
    (counted : declared.toNat =
      e.model.baseLen.toNat + d.instances e.model * e.model.repeatLen.toNat) :
    ∃ payload, d.encode e = .ok (e.id :: declared :: payload) ∧
      payload.length = declared.toNat := by
  have unstopped := laidOut.plan_unstopped ordered made supplies counted
  exact ⟨_, encode_of_plan (payloadRegisters_of_eq counted) unstopped, length_image _ _⟩

/-- **A data block is written if and only if a header can declare its length.**  The model was laid
out and has its points in order, and each value for a point that has a wire form is of the type of
the point and holds something.  Then the registers of the fixed blocks and of as many repeating ones
as the data block asks for, counted without a bound, decide: up to 65535 of them are written, under
the id of the entry and this length, and more of them are a fault of the definition kind, which
tells by how much.  No value is refused, none lacks room, and counting the registers does not end
the program. -/
theorem encode_ok_iff {source : Model} {name : String}
    (accepted : (source.resolve name).fault = none)
    (resolved : e.model = (source.resolve name).model)
    (ordered : ∀ b ∈ e.model.blocks, b.InOrder) (made : ∀ g ∈ d.values, g.value.Made)
    (supplies : d.Supplies e.model) :
    let count := if e.model.repeatingBlock?.isSome then d.repeats.toNat else 0
    let total := e.model.baseLen.toNat + count * e.model.repeatLen.toNat
    d.encode? e = some (d.encode e) ∧
      ((∃ regs, d.encode e = .ok regs) ↔ total ≤ 65535) ∧
      (∀ f, d.encode e = .error f → f = d.excess total ∧ f.kind = .definition) ∧
      ∀ regs, d.encode e = .ok regs → regs.length = 2 + total ∧
        ∃ declared payload, regs = e.id :: declared :: payload ∧ declared.toNat = total := by
  intro count total
  have laidOut : e.model.LaidOut := resolved ▸ Model.laidOut_of_resolve accepted
  have counted : e.model.baseLen.toNat + d.instances e.model * e.model.repeatLen.toNat = total := by
    rw [laidOut.instances_mul_repeatLen]
  refine ⟨encode?_of_le laidOut.baseLen_le_len, ?_⟩
  by_cases fits : total ≤ 65535
  · have declared : (UInt16.ofNat total).toNat = total :=
      UInt16.toNat_ofNat_of_lt' (Nat.lt_succ_of_le fits)
    obtain ⟨payload, written, length⟩ :=
      encode_of_counted laidOut ordered made supplies (declared.trans counted.symm)
    rw [written]
    refine ⟨iff_of_true ⟨_, rfl⟩ fits, fun f failed => ?_, fun regs eq => ?_⟩
    · cases failed
    · cases eq
      refine ⟨?_, _, _, rfl, declared⟩
      rw [List.length_cons, List.length_cons, length, declared]
      omega
  · have refused := payloadRegisters_of_gt (counted ▸ not_le.1 fits)
    rw [counted] at refused
    have failed : d.encode e = .error (d.excess total) := by
      rw [encode, refused]
      rfl
    rw [failed]
    refine ⟨iff_of_false ?_ fits, fun f eq => ?_, fun regs written => ?_⟩
    · rintro ⟨regs, written⟩
      cases written
    · cases eq
      exact ⟨rfl, d.kind_excess total⟩
    · cases written

/-- Two inputs with values of their own, a string that is cut and a value that is not written; and
the same values for as many inputs as a header can declare, and for as many as can be asked for. -/
theorem encode_ok_iff_converter :
    (converter.model.resolve converter.name).fault = none ∧
      (∀ b ∈ laidConverter.model.blocks, b.InOrder) ∧
      (∀ g ∈ converterBlock.values, g.value.Made) ∧ converterBlock.Supplies laidConverter.model ∧
      (∃ regs, { converterBlock with repeats := 13105 }.encode laidConverter = .ok regs ∧
        regs.length = 65535) ∧
      { converterBlock with repeats := 13106 }.encode laidConverter =
        .error (.tooManyRegisters "roof" 65538) ∧
      { converterBlock with repeats := 0xFFFFFFFFFFFFFFFF }.encode laidConverter =
        .error (.tooManyRepeats "roof" 18446744073709551615) := by
  have accepted : (converter.model.resolve converter.name).fault = none := rfl
  have ordered : ∀ b ∈ laidConverter.model.blocks, b.InOrder := by decide
  have made : ∀ g ∈ converterBlock.values, g.value.Made := by
    simp only [converterBlock, List.forall_mem_cons]
    exact ⟨.ofScaleFactor _, .ofBytes _ _, .ofUInt16 _, .ofUInt16 _, .ofUInt64 _, by simp⟩
  have supplies : converterBlock.Supplies laidConverter.model := by
    unfold Supplies
    decide
  -- the repeats are the only thing in which the data blocks differ
  have written : ∀ repeats, _ := fun repeats =>
    encode_ok_iff (d := { converterBlock with repeats }) accepted rfl ordered made supplies
  refine ⟨accepted, ordered, made, supplies, ?_, ?_, ?_⟩
  · obtain ⟨-, fits, -, length⟩ := written 13105
    obtain ⟨regs, ok⟩ := fits.2 (by decide)
    exact ⟨regs, ok, (length regs ok).1.trans (by decide)⟩
  · obtain ⟨-, fits, fault, -⟩ := written 13106
    cases eq : { converterBlock with repeats := 13106 }.encode laidConverter with
    | ok regs => exact absurd (fits.1 ⟨_, eq⟩) (by decide)
    | error f => exact congrArg Except.error ((fault f eq).1.trans (by decide))
  · obtain ⟨-, fits, fault, -⟩ := written 0xFFFFFFFFFFFFFFFF
    cases eq : { converterBlock with repeats := 0xFFFFFFFFFFFFFFFF }.encode laidConverter with
    | ok regs => exact absurd (fits.1 ⟨_, eq⟩) (by decide)
    | error f => exact congrArg Except.error ((fault f eq).1.trans (by decide))

end DataBlock

/-! ## Lengths that a reader admits -/

/-- A data block without values. -/
def DataBlock.blank (name : String) (id : UInt16) (repeats : UInt64) : DataBlock :=
  ⟨name, id, repeats, []⟩

/-- **A declared length is admitted if and only if the writer can declare it.**  In a model that was
laid out the check of a length neither takes a negative difference nor divides by zero.  Where the
points of the model are in order, the lengths without a fault are those in the headers of what is
written of data blocks without values, for any number of repeats. -/
theorem Model.checkLength_iff_encode {source : Model} {name : String}
    (accepted : (source.resolve name).fault = none) {e : Entry}
    (resolved : e.model = (source.resolve name).model) :
    (∀ id declared,
      e.model.checkLength? id declared = some (e.model.checkLength id declared)) ∧
    ((∀ b ∈ e.model.blocks, b.InOrder) → ∀ (block : String) (declared : UInt16),
      e.model.checkLength e.id declared = none ↔ ∃ repeats payload,
        (DataBlock.blank block e.id repeats).encode e = .ok (e.id :: declared :: payload)) := by
  have laidOut : e.model.LaidOut := resolved ▸ Model.laidOut_of_resolve accepted
  have lengths := laidOut.baseLen_le_len
  refine ⟨fun _ _ => checkLength?_of_le lengths, fun ordered block declared => ?_⟩
  constructor
  · intro fits
    have counted := declared_eq lengths fits
    refine ⟨UInt64.ofNat (e.model.instancesIn declared), ?_⟩
    set d := DataBlock.blank block e.id (UInt64.ofNat (e.model.instancesIn declared)) with blank
    have instances : d.instances e.model = e.model.instancesIn declared :=
      DataBlock.instances_of_repeats (e.model.toNat_instancesIn declared)
    rw [← instances] at counted
    have made : ∀ g ∈ d.values, g.value.Made := by simp [blank, DataBlock.blank]
    have supplies : d.Supplies e.model := by simp [DataBlock.Supplies, blank, DataBlock.blank]
    obtain ⟨payload, written, -⟩ :=
      DataBlock.encode_of_counted laidOut ordered made supplies counted
    exact ⟨payload, written⟩
  · rintro ⟨repeats, payload, written⟩
    obtain ⟨declared', counted, -, image⟩ := DataBlock.encode_ok written
    cases image
    have counted := DataBlock.payloadRegisters_ok counted
    exact (checkLength_of_eq lengths DataBlock.instances_of_flat counted).1

/-- Two inputs of a converter are admitted, and two inputs without their last register are not. -/
theorem Model.checkLength_iff_encode_converter :
    (converter.model.resolve converter.name).fault = none ∧
      (∀ b ∈ laidConverter.model.blocks, b.InOrder) ∧
      laidConverter.model.checkLength? 160 17 =
        some (some (.lengthMismatch 160 17 "expected 8 plus a multiple of 5")) ∧
      (∃ repeats payload,
        (DataBlock.blank "roof" 160 repeats).encode laidConverter = .ok (160 :: 18 :: payload)) ∧
      ¬ ∃ repeats payload,
        (DataBlock.blank "roof" 160 repeats).encode laidConverter = .ok (160 :: 17 :: payload) := by
  have accepted : (converter.model.resolve converter.name).fault = none := rfl
  have ordered : ∀ b ∈ laidConverter.model.blocks, b.InOrder := by decide
  obtain ⟨safe, admitted⟩ := checkLength_iff_encode (e := laidConverter) accepted rfl
  refine ⟨accepted, ordered, (safe 160 17).trans (by decide), ?_, ?_⟩
  · exact (admitted ordered "roof" 18).1 (by decide)
  · exact fun written => absurd ((admitted ordered "roof" 17).2 written) (by decide)

end SunSpec
