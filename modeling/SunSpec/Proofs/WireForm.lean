import Mathlib.Data.List.Basic
import Mathlib.Data.List.Induction
import Mathlib.Tactic.Ring
import SunSpec.DataBlock

/-!
# Values and their wire form

A `Value` is a record, and not every record of that form can be made: the constructors keep
payload, status, first bytes and text in step with the encoding.  `Value.Made` lists the ways to
make a value and `Value.WellFormed` says what they have in common.  `wellFormed_of_made` is where
the two meet, and everything behind it asks for the second only.

`Payload.Fits` is the heart of it: the wire image of a payload has the size of its encoding and is
read back as the payload.  The other direction, from bytes to a payload and back to the same bytes,
is `Payload.wire_payload`; with it `Codec.decode_eq_ok_iff` says what reading a field gives.  From
the two come the round trip of a value through a field (`Value.Suits.readBack`), and there are two
sources of what is written into one: a value that was fitted to its point (`Value.suits_of_fitTo`)
and the sentinel of a type (`Value.suits_sentinel`).
-/

namespace SunSpec

/-! ## Words -/

@[simp] lemma length_wordBytes16 (w : UInt16) : (wordBytes16 w).length = 2 := rfl

@[simp] lemma length_wordBytes32 (w : UInt32) : (wordBytes32 w).length = 4 := rfl

@[simp] lemma length_wordBytes64 (w : UInt64) : (wordBytes64 w).length = 8 := rfl

namespace Codec

/-- Bytes in front count for as much as there are bytes behind them. -/
lemma bigEndian_append (bs cs : List UInt8) :
    bigEndian (bs ++ cs) = bigEndian bs * 256 ^ cs.length + bigEndian cs := by
  have seeded : ∀ (cs : List UInt8) (n : Nat), cs.foldl (fun n b => n * 256 + b.toNat) n =
      n * 256 ^ cs.length + bigEndian cs := by
    intro cs
    induction cs with
    | nil => simp [bigEndian]
    | cons c cs ih =>
      intro n
      simp only [bigEndian, List.foldl_cons, List.length_cons] at ih ⊢
      rw [ih, ih (0 * 256 + c.toNat), Nat.pow_succ, Nat.add_mul, Nat.zero_mul, Nat.zero_add,
        Nat.mul_assoc, Nat.mul_comm 256, Nat.add_assoc]
  rw [bigEndian, List.foldl_append, seeded]
  rfl

@[simp] lemma bigEndian_wordBytes16 (w : UInt16) : bigEndian (wordBytes16 w) = w.toNat := by
  have lt := w.toNat_lt
  simp only [bigEndian, wordBytes16, List.foldl_cons, List.foldl_nil, UInt8.toNat_ofNat']
  omega

@[simp] lemma bigEndian_wordBytes32 (w : UInt32) : bigEndian (wordBytes32 w) = w.toNat := by
  have lt := w.toNat_lt
  rw [wordBytes32, bigEndian_append]
  simp only [bigEndian_wordBytes16, length_wordBytes16, UInt16.toNat_ofNat']
  omega

@[simp] lemma bigEndian_wordBytes64 (w : UInt64) : bigEndian (wordBytes64 w) = w.toNat := by
  have lt := w.toNat_lt
  rw [wordBytes64, bigEndian_append]
  simp only [bigEndian_wordBytes32, length_wordBytes32, UInt32.toNat_ofNat']
  omega

lemma bigEndian_lt (bs : List UInt8) : bigEndian bs < 256 ^ bs.length := by
  induction bs using List.reverseRecOn with
  | nil => simp [bigEndian]
  | append_singleton bs b ih =>
    have low := b.toNat_lt
    have last : bigEndian [b] = b.toNat := by simp [bigEndian]
    rw [bigEndian_append, last, List.length_append, List.length_singleton, Nat.pow_succ]
    omega

/-- The two halves of a row of bytes are the quotient and the remainder of its number. -/
lemma bigEndian_halves {bs : List UInt8} (half : Nat) (length : bs.length = 2 * half) :
    bigEndian bs / 256 ^ half = bigEndian (bs.take half) ∧
      bigEndian bs % 256 ^ half = bigEndian (bs.drop half) := by
  have back : (bs.drop half).length = half := by
    rw [List.length_drop]
    omega
  have low := bigEndian_lt (bs.drop half)
  have split := bigEndian_append (bs.take half) (bs.drop half)
  rw [back] at low split
  rw [List.take_append_drop] at split
  rw [split, Nat.add_comm]
  constructor
  · rw [Nat.add_mul_div_right _ _ (Nat.pow_pos (by decide)), Nat.div_eq_of_lt low, Nat.zero_add]
  · rw [Nat.add_mul_mod_self_right, Nat.mod_eq_of_lt low]

lemma wordBytes16_bigEndian {bs : List UInt8} (length : bs.length = 2) :
    wordBytes16 (UInt16.ofNat (bigEndian bs)) = bs := by
  obtain ⟨hi, lo, rfl⟩ := List.length_eq_two.1 length
  have pair : UInt16.ofNat (bigEndian [hi, lo]) = Registers.ofPair hi lo := by
    simp [bigEndian, Registers.ofPair]
  have whole : Registers.toBytes (Registers.ofBytes [hi, lo]) = [hi, lo] :=
    Registers.toBytes_ofBytes [hi, lo] (by simp)
  rw [pair]
  simpa using whole

lemma wordBytes32_bigEndian {bs : List UInt8} (length : bs.length = 4) :
    wordBytes32 (UInt32.ofNat (bigEndian bs)) = bs := by
  have front : (bs.take 2).length = 2 := by rw [List.length_take]; omega
  have back : (bs.drop 2).length = 2 := by rw [List.length_drop]; omega
  have lt := bigEndian_lt bs
  rw [length] at lt
  have word : (UInt32.ofNat (bigEndian bs)).toNat = bigEndian bs := UInt32.toNat_ofNat_of_lt' lt
  have upper : bigEndian bs / 65536 = bigEndian (bs.take 2) := (bigEndian_halves 2 length).1
  have lower : bigEndian bs % 65536 = bigEndian (bs.drop 2) := (bigEndian_halves 2 length).2
  rw [wordBytes32, word, upper, lower, wordBytes16_bigEndian front, wordBytes16_bigEndian back,
    List.take_append_drop]

lemma wordBytes64_bigEndian {bs : List UInt8} (length : bs.length = 8) :
    wordBytes64 (UInt64.ofNat (bigEndian bs)) = bs := by
  have front : (bs.take 4).length = 4 := by rw [List.length_take]; omega
  have back : (bs.drop 4).length = 4 := by rw [List.length_drop]; omega
  have lt := bigEndian_lt bs
  rw [length] at lt
  have word : (UInt64.ofNat (bigEndian bs)).toNat = bigEndian bs := UInt64.toNat_ofNat_of_lt' lt
  have upper : bigEndian bs / 4294967296 = bigEndian (bs.take 4) := (bigEndian_halves 4 length).1
  have lower : bigEndian bs % 4294967296 = bigEndian (bs.drop 4) := (bigEndian_halves 4 length).2
  rw [wordBytes64, word, upper, lower, wordBytes32_bigEndian front, wordBytes32_bigEndian back,
    List.take_append_drop]

end Codec

/-! ## Payloads -/

/-- The wire image of the payload has the size of the encoding and is read back as the payload. -/
def Payload.Fits (p : Payload) (e : Encoding) : Prop :=
  p.wire.length = e.size ∧ Codec.payload e.type p.wire = p

namespace Payload

/-- What is read off a field of the right length fits. -/
lemma fits_payload {e : Encoding} {field : List UInt8} (length : field.length = e.size) :
    (Codec.payload e.type field).Fits e := by
  obtain ⟨t, len⟩ := e
  cases t
  all_goals
    refine ⟨?_, ?_⟩
    · simp_all [Codec.payload, wire, Encoding.size, PointType.size]
    · simp only [Codec.payload, wire, Codec.bigEndian_wordBytes16, Codec.bigEndian_wordBytes32,
        Codec.bigEndian_wordBytes64, UInt16.ofNat_toNat, UInt32.ofNat_toNat, UInt64.ofNat_toNat,
        UInt16.toUInt16_toInt16, UInt32.toUInt32_toInt32, UInt64.toUInt64_toInt64]

/-- A field is the wire image of what is read off it. -/
lemma wire_payload {e : Encoding} {field : List UInt8} (length : field.length = e.size) :
    (Codec.payload e.type field).wire = field := by
  obtain ⟨t, len⟩ := e
  cases t with
  | null | undef => exact (List.eq_nil_of_length_eq_zero length).symm
  | string => rfl
  | int16 | sunssf | uint16 | acc16 | enum16 | bitfield16 =>
    have two : field.length = 2 := length
    simp only [Codec.payload, wire, UInt16.toUInt16_toInt16, Codec.wordBytes16_bigEndian two]
  | int32 | uint32 | acc32 | bitfield32 | float32 =>
    have four : field.length = 4 := length
    simp only [Codec.payload, wire, UInt32.toUInt32_toInt32, Codec.wordBytes32_bigEndian four]
  | int64 | uint64 | float64 =>
    have eight : field.length = 8 := length
    simp only [Codec.payload, wire, UInt64.toUInt64_toInt64, Codec.wordBytes64_bigEndian eight]

/-- Of two encodings of one type and size, a payload fits both or neither. -/
lemma Fits.congr {p : Payload} {e e' : Encoding} (h : p.Fits e) (type : e'.type = e.type)
    (size : e'.size = e.size) : p.Fits e' := by
  rw [Fits, type, size]
  exact h

end Payload

lemma PointType.isSkipped_of_isEncodable {t : PointType} (encodable : t.isEncodable = true) :
    t.isSkipped = false := by
  simp only [isEncodable, Bool.and_eq_true, Bool.not_eq_true'] at encodable
  exact encodable.1

/-! ## Values -/

namespace Value

variable (v : Value) (e : Encoding) (p : Payload)

@[simp] lemma toNat_rawCount_setRaw (image : List UInt8) :
    (v.setRaw image).rawCount.toNat = min rawCapacity image.length := by
  rw [setRaw, UInt8.toNat_ofNat', rawCapacity]
  omega

@[simp] lemma raw_setRaw (image : List UInt8) : (v.setRaw image).raw = image.take rawCapacity := by
  have inside : min rawCapacity image.length ≤ (image.take rawCapacity).length := by
    rw [List.length_take]
  rw [raw, toNat_rawCount_setRaw, setRaw, Utf8.pad, List.take_append_of_le_length inside,
    List.take_take, Nat.min_right_comm, Nat.min_self, ← List.take_eq_take_min]

@[simp] lemma encoding_ofPayload : (ofPayload e p).encoding = e := rfl

@[simp] lemma status_ofPayload : (ofPayload e p).status = statusOf e.type p := rfl

@[simp] lemma payload_ofPayload : (ofPayload e p).payload = p := rfl

@[simp] lemma raw_ofPayload : (ofPayload e p).raw = p.wire.take rawCapacity := raw_setRaw _ _

/-- A value that becomes a string is the one that a string payload makes. -/
lemma fillString_eq (bs : List UInt8) (len : UInt16) :
    v.fillString bs len = ofPayload (.string len) (.string (Utf8.pad len.toNat bs)) := rfl

end Value

/-- A field is read if it is there, and what is read keeps the bytes of its own wire image. -/
lemma Codec.decode_eq_ok_iff {e : Encoding} {bytes : List UInt8} {v : Value} :
    decode e bytes = .ok v ↔ e.type.isSkipped = false ∧ e.size ≤ bytes.length ∧
      v = .ofPayload e (payload e.type (bytes.take e.size)) := by
  unfold decode
  cases readable : e.type.isSkipped with
  | true => simp
  | false =>
    by_cases room : e.size ≤ bytes.length
    · have length : (bytes.take e.size).length = e.size := List.length_take_of_le room
      have own : Value.ofParts e (payload e.type (bytes.take e.size)) (bytes.take e.size) =
          .ofPayload e (payload e.type (bytes.take e.size)) := by
        rw [Value.ofPayload, Payload.wire_payload length]
      simp [room, own, eq_comm]
    · simp [room]

namespace Value

/-- The ways to make a value. -/
inductive Made : Value → Prop
  | undefined (e : Encoding) : Made (undefined e)
  | ofInt16 (v : Int16) : Made (ofInt16 v)
  | ofUInt16 (v : UInt16) : Made (ofUInt16 v)
  | ofAcc16 (v : UInt16) : Made (ofAcc16 v)
  | ofEnum16 (v : UInt16) : Made (ofEnum16 v)
  | ofBitfield16 (v : UInt16) : Made (ofBitfield16 v)
  | ofScaleFactor (v : Int16) : Made (ofScaleFactor v)
  | ofInt32 (v : Int32) : Made (ofInt32 v)
  | ofUInt32 (v : UInt32) : Made (ofUInt32 v)
  | ofAcc32 (v : UInt32) : Made (ofAcc32 v)
  | ofBitfield32 (v : UInt32) : Made (ofBitfield32 v)
  | ofFloat32 (bits : UInt32) : Made (ofFloat32 bits)
  | ofInt64 (v : Int64) : Made (ofInt64 v)
  | ofUInt64 (v : UInt64) : Made (ofUInt64 v)
  | ofFloat64 (bits : UInt64) : Made (ofFloat64 bits)
  | ofBytes (bs : List UInt8) (len : UInt16) : Made (ofBytes bs len)
  | ofString (s : String) (len : UInt16) : Made (ofString s len)
  | setString (v : Value) (s : String) (len : UInt16) : Made (v.setString s len)
  | decoded {e : Encoding} {bytes : List UInt8} {v : Value} (h : Codec.decode e bytes = .ok v) :
      Made v

/-- Sentinels are made like any other value. -/
lemma made_sentinel (e : Encoding) : (sentinel e).Made := by
  unfold sentinel
  split <;> constructor

/-- The value holds nothing, or a payload of its encoding with all that goes with it. -/
inductive WellFormed : Value → Prop
  | undefined (e : Encoding) : WellFormed (undefined e)
  | ofPayload {e : Encoding} {p : Payload} (fits : p.Fits e) : WellFormed (ofPayload e p)

lemma wellFormed_fillString (v : Value) (bs : List UInt8) (len : UInt16) :
    (v.fillString bs len).WellFormed := by
  rw [fillString_eq]
  exact .ofPayload ⟨Utf8.length_pad len.toNat bs, rfl⟩

lemma wellFormed_of_decode {e : Encoding} {bytes : List UInt8} {v : Value}
    (h : Codec.decode e bytes = .ok v) : v.WellFormed := by
  obtain ⟨-, room, rfl⟩ := Codec.decode_eq_ok_iff.1 h
  exact .ofPayload (Payload.fits_payload (List.length_take_of_le room))

theorem wellFormed_of_made {v : Value} (h : v.Made) : v.WellFormed := by
  cases h with
  | undefined e => exact .undefined e
  | ofBytes bs len => exact wellFormed_fillString _ bs len
  | ofString s len => exact wellFormed_fillString _ _ len
  | setString v s len => exact wellFormed_fillString v _ len
  | decoded h => exact wellFormed_of_decode h
  | _ => exact .ofPayload (by simp [Payload.Fits, Payload.wire, Codec.payload, Encoding.plain,
      Encoding.size, PointType.size])

end Value

/-! ## Fields

A value passes through a field when it is written there and the field is read. -/

/-- What is written of a value is the wire image of its payload. -/
lemma Codec.encodeWithin_eq {v : Value} (wellFormed : v.WellFormed) {room : Nat}
    {bytes : List UInt8} (h : encodeWithin room v = .ok bytes) :
    v = .ofPayload v.encoding v.payload ∧ v.payload.Fits v.encoding ∧ bytes = v.payload.wire := by
  unfold encodeWithin at h
  split at h
  · cases h
  · split at h
    · cases h
    · cases wellFormed with
      | undefined e => cases h
      | @ofPayload e p fits =>
        refine ⟨rfl, fits, ?_⟩
        cases p with
        | none | i64 _ | u64 _ | f64 _ => cases h
        | string bs =>
          have full : bs.length = e.size := fits.1
          cases h
          simp [Utf8.pad, Payload.wire, full, List.take_of_length_le]
        | _ =>
          cases h
          rfl

namespace Value

/-- Two values say the same, whatever lengths their encodings declare. -/
structure SameDatum (v w : Value) : Prop where
  payload : v.payload = w.payload
  text : v.text = w.text
  status : v.status = w.status
  raw : v.raw = w.raw

/-- A value in the form in which a point takes it. -/
structure Suits (v : Value) (p : Point) : Prop where
  wellFormed : v.WellFormed
  type_eq : v.type = p.encoding.type
  size_eq : v.encoding.size = p.size

/-- A value that suits a point fills the field of the point and is read back from it. -/
lemma Suits.readBack {v : Value} {p : Point} (h : v.Suits p) {room : Nat} {bytes : List UInt8}
    (written : Codec.encodeWithin room v = .ok bytes) :
    bytes.length = p.size ∧
      (ofPayload p.encoding (Codec.payload p.encoding.type bytes)).SameDatum v := by
  obtain ⟨eq, fits, rfl⟩ := Codec.encodeWithin_eq h.wellFormed written
  obtain ⟨length, payload⟩ := fits.congr h.type_eq.symm h.size_eq.symm
  refine ⟨length, ?_⟩
  have status : v.status = statusOf p.encoding.type v.payload := by
    rw [← h.type_eq, eq]
    rfl
  have raw : v.raw = v.payload.wire.take rawCapacity := by
    rw [eq]
    exact raw_ofPayload _ _
  have text : v.text = v.payload.hostText := by
    rw [eq]
    rfl
  rw [payload]
  exact ⟨rfl, text.symm, status.symm, (raw_ofPayload _ _).trans raw.symm⟩

lemma suits_ofBytes (bs : List UInt8) {p : Point} (string : p.encoding.type = .string) :
    (ofBytes bs p.encoding.declaredLen).Suits p := by
  refine ⟨wellFormed_fillString _ bs _, string.symm, ?_⟩
  simp [Point.size, Encoding.size, string, ofBytes, fillString_eq, Encoding.string,
    Encoding.declaredLen]

/-- The size of an encoding depends on what it declares for strings only. -/
lemma size_eq_of_type_eq {e e' : Encoding} (type : e.type = e'.type)
    (numeric : e.type ≠ .string) : e.size = e'.size := by
  unfold Encoding.size
  rw [← type]
  split
  · next eq => exact absurd eq numeric
  · rfl

/-- A value of the encoding of a point is taken as it is. -/
lemma fitTo_of_encoding_eq {v : Value} {p : Point} (same : v.encoding = p.encoding) :
    v.fitTo p = .ok v := by
  unfold fitTo type
  rw [same, if_neg (not_not.2 rfl), if_neg (fun other => other.2 rfl)]

/-- A value that was fitted to a point suits it. -/
lemma suits_of_fitTo {v w : Value} {p : Point} (wellFormed : v.WellFormed)
    (h : v.fitTo p = .ok w) : w.Suits p := by
  unfold fitTo at h
  split at h
  · cases h
  · next same =>
    have type : v.type = p.encoding.type := not_not.1 same
    split at h
    · next other =>
      have string : p.encoding.type = .string := type ▸ other.1
      cases hs : v.stringBytes with
      | error f => simp [hs, Except.map] at h
      | ok bytes =>
        simp only [hs, Except.map, Except.ok.injEq] at h
        subst h
        split <;> exact suits_ofBytes _ string
    · next fitting =>
      cases h
      refine ⟨wellFormed, type, ?_⟩
      by_cases string : v.type = .string
      · have eq : v.encoding = p.encoding := not_not.1 fun ne => fitting ⟨string, ne⟩
        rw [eq, Point.size]
      · exact size_eq_of_type_eq type string

/-- The sentinel of a type suits every point of the type. -/
lemma suits_sentinel (p : Point) : (sentinel p.encoding).Suits p := by
  by_cases string : p.encoding.type = .string
  · have eq : sentinel p.encoding = ofString "" p.encoding.declaredLen := by
      simp [sentinel, string]
    rw [eq]
    exact suits_ofBytes _ string
  · have type : (sentinel p.encoding).type = p.encoding.type := by
      unfold sentinel
      split <;> simp_all [type, undefined] <;> rfl
    have numeric : (sentinel p.encoding).encoding.type ≠ .string := fun eq => string (type ▸ eq)
    exact ⟨wellFormed_of_made (made_sentinel _), type, size_eq_of_type_eq type numeric⟩

end Value

end SunSpec
