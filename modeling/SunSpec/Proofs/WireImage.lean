import SunSpec.Proofs.WireForm

/-!
# The image of the codec

`Codec.encode` and `Codec.decode` undo each other wherever both are defined.  A value that can be
written is read back whole, whatever stands behind its bytes (`Codec.decode_of_encodeWithin`), and
every row of bytes of the right length is read as a value that is written as the same bytes
(`Codec.encodeWithin_ofPayload`).  The second direction is the one that a device needs: it says
that no pattern is lost, neither a sentinel nor a bit of a floating-point number nor a byte of a
string that is no text.

It rests on `Payload.wire_payload`: the bytes of a field are the wire image of what is read off it.
-/

namespace SunSpec

namespace Codec

variable {e : Encoding} {v : Value} {room : Nat} {bytes : List UInt8}

/-! ## There and back -/

lemma isEncodable_of_encodeWithin (written : encodeWithin room v = .ok bytes) :
    v.type.isEncodable = true := by
  cases encodable : v.type.isEncodable with
  | true => rfl
  | false => simp [encodeWithin, encodable] at written

/-- What is written of a value is read as the value, whatever stands behind it. -/
lemma decode_of_encodeWithin (wellFormed : v.WellFormed)
    (written : encodeWithin room v = .ok bytes) (rest : List UInt8) :
    bytes.length = v.encoding.size ∧ decode v.encoding (bytes ++ rest) = .ok v := by
  obtain ⟨eq, ⟨length, payload⟩, rfl⟩ := encodeWithin_eq wellFormed written
  have readable : v.encoding.type.isSkipped = false :=
    PointType.isSkipped_of_isEncodable (isEncodable_of_encodeWithin written)
  have field : (v.payload.wire ++ rest).take v.encoding.size = v.payload.wire := by
    rw [← length, List.take_left]
  have room : v.encoding.size ≤ (v.payload.wire ++ rest).length := by
    rw [List.length_append]
    omega
  refine ⟨length, decode_eq_ok_iff.2 ⟨readable, room, ?_⟩⟩
  rw [field, payload]
  exact eq

/-- What is read off a field is written as the field. -/
lemma encodeWithin_ofPayload (encodable : e.type.isEncodable = true) {field : List UInt8}
    (length : field.length = e.size) (enough : e.size ≤ room) :
    encodeWithin room (.ofPayload e (payload e.type field)) = .ok field := by
  have wire := Payload.wire_payload length
  have supported : ¬ (!e.type.isEncodable) = true := by simp [encodable]
  unfold encodeWithin
  refine (if_neg supported).trans ((if_neg (not_lt.2 enough)).trans ?_)
  obtain ⟨t, len⟩ := e
  cases t with
  | null | undef | int64 | uint64 | float64 => cases encodable
  | string =>
    -- a string is filled up to the size that it has already
    have full : field.take (Encoding.size ⟨.string, len⟩) = field :=
      List.take_of_length_le length.le
    simp only [Value.payload_ofPayload, Value.encoding_ofPayload, payload, Utf8.pad, full, length,
      Nat.sub_self, List.replicate_zero, List.append_nil]
  | _ => exact congrArg Except.ok wire

lemma decode_of_length (readable : e.type.isSkipped = false) (length : bytes.length = e.size) :
    decode e bytes = .ok (.ofPayload e (payload e.type bytes)) := by
  have field : bytes.take e.size = bytes := List.take_of_length_le length.le
  exact decode_eq_ok_iff.2 ⟨readable, length.ge, by rw [field]⟩

/-- **The codec is a bijection on its image.**  A value that was made in whatever way and that can
be written takes exactly the bytes of its encoding, and these are read back as the very same
value, payload, status and first bytes, whatever follows them.  And of an encoding that can be
written, each row of bytes of its size is read as a value that is written as these bytes. -/
theorem encode_decode_exact :
    (∀ v : Value, v.Made → ∀ bytes, encode v = .ok bytes →
      bytes.length = v.encoding.size ∧ ∀ rest, decode v.encoding (bytes ++ rest) = .ok v) ∧
    ∀ e : Encoding, e.type.isEncodable = true → ∀ bytes : List UInt8, bytes.length = e.size →
      ∃ v, decode e bytes = .ok v ∧ v.encoding = e ∧ encode v = .ok bytes := by
  constructor
  · intro v made bytes written
    have wellFormed := Value.wellFormed_of_made made
    exact ⟨(decode_of_encodeWithin wellFormed written []).1,
      fun rest => (decode_of_encodeWithin wellFormed written rest).2⟩
  · intro e encodable bytes length
    have readable : e.type.isSkipped = false := by
      simp only [PointType.isEncodable, Bool.and_eq_true, Bool.not_eq_true'] at encodable
      exact encodable.1
    refine ⟨.ofPayload e (payload e.type bytes), decode_of_length readable length, rfl, ?_⟩
    exact encodeWithin_ofPayload encodable length le_rfl

/-- A string that was cut inside a character and holds a zero byte, with other bytes behind it, and
a number that is none and not the sentinel of its type. -/
theorem encode_decode_exact_broken :
    (let v := Value.null.setString "odd" 3
      let w := Value.ofBytes [0x41, 0, 0xC3, 0xA9] 3
      v.Made ∧ encode v = .ok [0x6F, 0x64, 0x64] ∧
        decode v.encoding ([0x6F, 0x64, 0x64] ++ [0xFF]) = .ok v ∧
      w.Made ∧ encode w = .ok [0x41, 0, 0xC3] ∧
        decode w.encoding ([0x41, 0, 0xC3] ++ [0xA9]) = .ok w) ∧
    ∃ v, decode (.plain .float32) [0xFF, 0xA0, 0, 1] = .ok v ∧ v.encoding = .plain .float32 ∧
      encode v = .ok [0xFF, 0xA0, 0, 1] := by
  have text : encode (Value.null.setString "odd" 3) = .ok [0x6F, 0x64, 0x64] := by decide
  have bytes : encode (Value.ofBytes [0x41, 0, 0xC3, 0xA9] 3) = .ok [0x41, 0, 0xC3] := by decide
  have made : (Value.null.setString "odd" 3).Made := .setString _ _ _
  have made' : (Value.ofBytes [0x41, 0, 0xC3, 0xA9] 3).Made := .ofBytes _ _
  exact ⟨⟨made, text, (encode_decode_exact.1 _ made _ text).2 _, made', bytes,
    (encode_decode_exact.1 _ made' _ bytes).2 _⟩,
    encode_decode_exact.2 (.plain .float32) rfl [0xFF, 0xA0, 0, 1] rfl⟩

end Codec

end SunSpec
