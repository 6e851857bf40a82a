import SunSpec.Proofs.WireForm

/-!
# The parts of a value

A value says the same thing several times: in its encoding, its status, the bytes it keeps, its
payload and its text.  `Value.InStep` is what holds between these parts, field by field, and
`Value.inStep_of_made` derives it from `Value.WellFormed`, so that it does not matter which
constructor put the value together or how often it was written over.

The checked accessors look at the type and at the payload, never at the status.  What they answer
can be told from type and status alone, because the parts are in step: `Value.read_map` is the
argument for all of them, and `Value.accessor` the table of the types that have one.
-/

namespace SunSpec

lemma Utf8.pad_take (n : Nat) (bs : List UInt8) : pad n (bs.take n) = pad n bs := by
  have rest : n - min n bs.length = n - bs.length := by omega
  rw [pad, pad, List.take_take, Nat.min_self, List.length_take, rest]

namespace Payload

/-- The payload is of the form that a type prescribes. -/
inductive IsOf : PointType → Payload → Prop
  | int16 (n : Int16) : IsOf .int16 (.i16 n)
  | sunssf (n : Int16) : IsOf .sunssf (.i16 n)
  | uint16 (n : UInt16) : IsOf .uint16 (.u16 n)
  | acc16 (n : UInt16) : IsOf .acc16 (.u16 n)
  | enum16 (n : UInt16) : IsOf .enum16 (.u16 n)
  | bitfield16 (n : UInt16) : IsOf .bitfield16 (.u16 n)
  | int32 (n : Int32) : IsOf .int32 (.i32 n)
  | uint32 (n : UInt32) : IsOf .uint32 (.u32 n)
  | acc32 (n : UInt32) : IsOf .acc32 (.u32 n)
  | bitfield32 (n : UInt32) : IsOf .bitfield32 (.u32 n)
  | float32 (bits : UInt32) : IsOf .float32 (.f32 bits)
  | int64 (n : Int64) : IsOf .int64 (.i64 n)
  | uint64 (n : UInt64) : IsOf .uint64 (.u64 n)
  | float64 (bits : UInt64) : IsOf .float64 (.f64 bits)
  | string (wire : List UInt8) : IsOf .string (.string wire)

/-- The payload is the pattern by which a type says that it is not implemented. -/
inductive IsSentinel : PointType → Payload → Prop
  | int16 : IsSentinel .int16 (.i16 (-0x8000))
  | sunssf : IsSentinel .sunssf (.i16 (-0x8000))
  | uint16 : IsSentinel .uint16 (.u16 0xFFFF)
  | int32 : IsSentinel .int32 (.i32 (-0x80000000))
  | uint32 : IsSentinel .uint32 (.u32 0xFFFFFFFF)
  | float32 {bits : UInt32} (nan : Decimal.isNaN32 bits = true) : IsSentinel .float32 (.f32 bits)

variable {t : PointType} {p : Payload} {e : Encoding}

lemma IsOf.ne_none (h : p.IsOf t) : p ≠ .none := by
  intro none
  rw [none] at h
  cases h

lemma IsSentinel.ne_none (h : p.IsSentinel t) : p ≠ .none := by
  intro none
  rw [none] at h
  cases h

/-- The status looks for exactly these patterns. -/
lemma isPattern_iff : p.isPattern t = true ↔ p.IsSentinel t := by
  constructor
  · intro h
    unfold isPattern at h
    split at h
    · next n =>
      obtain rfl : n = -0x8000 := by
        rw [← Int16.toInt16_toUInt16 n, beq_iff_eq.1 h]
        rfl
      exact .int16
    · next n =>
      obtain rfl : n = -0x8000 := by
        rw [← Int16.toInt16_toUInt16 n, beq_iff_eq.1 h]
        rfl
      exact .sunssf
    · obtain rfl := beq_iff_eq.1 h
      exact .uint16
    · next n =>
      obtain rfl : n = -0x80000000 := by
        rw [← Int32.toInt32_toUInt32 n, beq_iff_eq.1 h]
        rfl
      exact .int32
    · obtain rfl := beq_iff_eq.1 h
      exact .uint32
    · exact .float32 h
    · cases h
  · intro h
    cases h with
    | float32 nan => exact nan
    | _ => rfl

/-- What a type that is not skipped reads off a field is of its form. -/
lemma Fits.isOf (fits : p.Fits e) (readable : e.type.isSkipped = false) : p.IsOf e.type := by
  obtain ⟨-, read⟩ := fits
  obtain ⟨t, len⟩ := e
  rw [← read]
  cases t with
  | null | undef => cases readable
  | _ => constructor

lemma Fits.eq_none (fits : p.Fits e) (skipped : e.type.isSkipped = true) : p = .none := by
  obtain ⟨-, read⟩ := fits
  obtain ⟨t, len⟩ := e
  rw [← read]
  cases t with
  | null | undef => rfl
  | _ => cases skipped

end Payload

namespace Value

/-! ## The parts in step -/

/-- What holds between the parts of a value. -/
structure InStep (v : Value) : Prop where
  undefined_iff : v.status = .undefined ↔ v.payload = .none
  notImplemented_iff : v.status = .notImplemented ↔ v.payload.IsSentinel v.type
  ok_iff : v.status = .ok ↔ v.payload ≠ .none ∧ ¬ v.payload.IsSentinel v.type
  isOf : v.payload ≠ .none → v.payload.IsOf v.type
  length : v.payload ≠ .none → v.payload.wire.length = v.encoding.size
  raw_eq : v.raw = v.payload.wire.take (min rawCapacity v.encoding.size)
  /-- Behind the bytes of the image the storage is zero. -/
  rawStorage_eq : v.rawStorage = Utf8.pad rawCapacity v.raw
  rawCount_eq : v.rawCount.toNat = v.raw.length
  text_eq : ∀ wire, v.payload = .string wire → v.text = Utf8.lossy (wire.takeWhile (· != 0))

lemma statusOf_of_readable {t : PointType} (readable : t.isSkipped = false) (p : Payload) :
    statusOf t p = .notImplemented ∧ p.IsSentinel t ∨ statusOf t p = .ok ∧ ¬ p.IsSentinel t := by
  rw [statusOf, readable, ← Payload.isPattern_iff]
  cases p.isPattern t with
  | true => exact .inl ⟨rfl, rfl⟩
  | false => exact .inr ⟨rfl, Bool.false_ne_true⟩

lemma inStep_undefined (e : Encoding) : (undefined e).InStep := by
  have nothing : ¬ Payload.IsSentinel e.type .none := fun h => h.ne_none rfl
  constructor
  · exact iff_of_true rfl rfl
  · exact iff_of_false (by simp [undefined]) nothing
  · exact iff_of_false (by simp [undefined]) (fun defined => defined.1 rfl)
  · exact fun defined => (defined rfl).elim
  · exact fun defined => (defined rfl).elim
  · exact List.take_nil.symm
  · rfl
  · rfl
  · intro wire eq
    cases eq

lemma inStep_ofPayload {e : Encoding} {p : Payload} (fits : p.Fits e) : (ofPayload e p).InStep := by
  cases skipped : e.type.isSkipped with
  | true =>
    obtain rfl := fits.eq_none skipped
    have eq : ofPayload e .none = undefined e := by
      show ({ undefined e with status := statusOf e.type .none } : Value) = undefined e
      rw [statusOf, if_pos skipped]
      rfl
    rw [eq]
    exact inStep_undefined e
  | false =>
    have isOf := fits.isOf skipped
    have defined := isOf.ne_none
    have standing := statusOf_of_readable skipped p
    constructor
    · show statusOf e.type p = .undefined ↔ p = .none
      rcases standing with ⟨status, -⟩ | ⟨status, -⟩ <;> simp [status, defined]
    · show statusOf e.type p = .notImplemented ↔ p.IsSentinel e.type
      rcases standing with ⟨status, sentinel⟩ | ⟨status, sentinel⟩ <;> simp [status, sentinel]
    · show statusOf e.type p = .ok ↔ p ≠ .none ∧ ¬ p.IsSentinel e.type
      rcases standing with ⟨status, sentinel⟩ | ⟨status, sentinel⟩ <;>
        simp [status, sentinel, defined]
    · exact fun _ => isOf
    · exact fun _ => fits.1
    · rw [raw_ofPayload, payload_ofPayload, encoding_ofPayload, ← fits.1,
        ← List.take_eq_take_min]
    · rw [raw_ofPayload]
      exact (Utf8.pad_take rawCapacity p.wire).symm
    · rw [raw_ofPayload, List.length_take]
      exact toNat_rawCount_setRaw _ _
    · rintro wire eq
      obtain rfl : p = .string wire := eq
      rfl

/-- However a value was made, its parts are in step. -/
lemma inStep_of_made {v : Value} (made : v.Made) : v.InStep := by
  cases wellFormed_of_made made with
  | undefined e => exact inStep_undefined e
  | ofPayload fits => exact inStep_ofPayload fits

/-! ## Checked access -/

/-- The accessor of a type, if it has one, with what it returns as a payload. -/
def accessor : PointType → Option (Value → Except Fault Payload)
  | .int16 => some fun v => v.int16.map .i16
  | .sunssf => some fun v => v.scaleFactor.map .i16
  | .uint16 => some fun v => v.uint16.map .u16
  | .acc16 => some fun v => v.acc16.map .u16
  | .enum16 => some fun v => v.enum16.map .u16
  | .bitfield16 => some fun v => v.bitfield16.map .u16
  | .int32 => some fun v => v.int32.map .i32
  | .uint32 => some fun v => v.uint32.map .u32
  | .acc32 => some fun v => v.acc32.map .u32
  | .bitfield32 => some fun v => v.bitfield32.map .u32
  | .float32 => some fun v => v.float32.map .f32
  | .int64 => some fun v => v.int64.map .i64
  | .uint64 => some fun v => v.uint64.map .u64
  | .float64 => some fun v => v.float64.map .f64
  | .string => some fun v => v.stringBytes.map .string
  | .null | .undef => none

/-- What an accessor answers by the type and the status of a value. -/
def answer {α : Type} (v : Value) (t : PointType) (held : α) : Except Fault α :=
  if v.type = t ∧ v.status ≠ .undefined then .ok held else .error (.typeMismatch t v.type)

/-- A view that sees every payload of a type, and nothing where there is none, tells by type and
status what is to be seen. -/
lemma read_map {v : Value} (inStep : v.InStep) {t : PointType} {α : Type}
    {view : Payload → Option α} {form : α → Payload}
    (sees : ∀ {p}, p.IsOf t → (view p).map form = some p) (blank : view .none = none) :
    (v.read t view).map form = v.answer t v.payload := by
  unfold read answer
  by_cases type : v.type = t
  · rw [if_pos type]
    by_cases undefined : v.status = .undefined
    · have none := inStep.undefined_iff.1 undefined
      rw [if_neg (fun held => held.2 undefined), none, blank]
      rfl
    · have isOf := inStep.isOf fun none => undefined (inStep.undefined_iff.2 none)
      obtain ⟨a, seen, eq⟩ := Option.map_eq_some_iff.1 (sees (type ▸ isOf))
      rw [if_pos ⟨type, undefined⟩, seen, ← eq]
      rfl
  · rw [if_neg type, if_neg (fun held => type held.1)]
    rfl

/-- Each accessor answers by type and status. -/
lemma accessor_eq {v : Value} (inStep : v.InStep) {t : PointType}
    {access : Value → Except Fault Payload} (h : accessor t = some access) :
    access v = v.answer t v.payload := by
  unfold accessor at h
  split at h
  case h_16 | h_17 => cases h
  all_goals
    obtain rfl := Option.some.inj h
    refine read_map inStep ?_ rfl
    intro p isOf
    cases isOf
    rfl

lemma string_eq {v : Value} (inStep : v.InStep) : v.string = v.answer .string v.text := by
  have listed : accessor .string = some fun v => v.stringBytes.map .string := rfl
  have bytes : v.stringBytes.map .string = v.answer .string v.payload := accessor_eq inStep listed
  unfold string
  unfold answer at *
  by_cases held : v.type = .string ∧ v.status ≠ .undefined
  · rw [if_pos held] at bytes ⊢
    cases hs : v.stringBytes with
    | ok wire => rfl
    | error f =>
      rw [hs] at bytes
      cases bytes
  · rw [if_neg held] at bytes ⊢
    cases hs : v.stringBytes with
    | ok wire =>
      rw [hs] at bytes
      cases bytes
    | error f =>
      rw [hs] at bytes
      exact congrArg Except.error (Except.error.inj bytes)

/-- **The parts of a value agree.**  A value that was made in whatever way, the empty value and the
sentinels among them, and a value of any past that was turned into a string, has a status that is
told by its payload: undefined where it holds nothing, not implemented where it holds the pattern of
its type, and fine otherwise.  What it holds is of the form that its type prescribes and has the
size of its encoding on the wire; the first sixteen bytes of this image are what it keeps, and the
text of a string is what stands in front of the first zero byte.  So each accessor returns what the
value holds exactly if it asks for the type of the value and the value is defined, and it names the
two types otherwise. -/
theorem parts_agree :
    null.Made ∧ (∀ e, (sentinel e).Made) ∧ ∀ v : Value, v.Made →
      v.InStep ∧
      (∀ t access, accessor t = some access → access v = v.answer t v.payload) ∧
      v.string = v.answer .string v.text := by
  refine ⟨.undefined _, made_sentinel, fun v made => ?_⟩
  have inStep := inStep_of_made made
  exact ⟨inStep, fun t access h => accessor_eq inStep h, string_eq inStep⟩

/-- A number that was turned into a text and then into a shorter one, a field that holds no number,
and a place holder. -/
theorem parts_agree_rewritten :
    let text := ((ofUInt32 0xFFFFFFFF).setString "overlong" 6).setString "odd" 3
    let blank := undefined (.plain .int16)
    (text.Made ∧ text.status = .ok ∧ text.string = .ok "odd") ∧
    (∃ v, Codec.decode (.plain .float32) [0xFF, 0xA0, 0, 1] = .ok v ∧ v.status = .notImplemented ∧
      v.float32.map Payload.f32 = .ok v.payload) ∧
    (blank.Made ∧ blank.status = .undefined ∧
      blank.int16.map Payload.i16 = .error (.typeMismatch .int16 .int16)) := by
  intro text blank
  refine ⟨?_, ?_, ?_⟩
  · have made : text.Made := .setString _ _ _
    obtain ⟨inStep, -, string⟩ := parts_agree.2.2 text made
    have plain : ¬ text.payload.IsSentinel text.type := by
      intro sentinel
      cases sentinel
    exact ⟨made, inStep.ok_iff.2 ⟨by decide, plain⟩, string⟩
  · obtain ⟨v, read⟩ : ∃ v, Codec.decode (.plain .float32) [0xFF, 0xA0, 0, 1] = .ok v := ⟨_, rfl⟩
    obtain ⟨inStep, answers, -⟩ := parts_agree.2.2 v (.decoded read)
    have answer := answers .float32 _ rfl
    obtain ⟨-, -, rfl⟩ := Codec.decode_eq_ok_iff.1 read
    exact ⟨_, read, inStep.notImplemented_iff.2 (.float32 (by decide)), answer⟩
  · have made : blank.Made := .undefined _
    obtain ⟨inStep, answers, -⟩ := parts_agree.2.2 blank made
    exact ⟨made, inStep.undefined_iff.2 rfl, answers .int16 _ rfl⟩

end Value

end SunSpec
