import SunSpec.Value

/-!
# The value codec

Values as wire bytes and back. A value is written as exactly the bytes of its encoding's size;
reading takes that many bytes from the front and never looks past them. The 64-bit types can be
read but not written, and the types without a wire form neither.
-/

namespace SunSpec

namespace Codec

/-- The number that bytes stand for, highest byte first. -/
def bigEndian (bs : List UInt8) : Nat := bs.foldl (fun n b => n * 256 + b.toNat) 0

/-- The bytes of a value, where `room` bytes are left for them. -/
def encodeWithin (room : Nat) (v : Value) : Except Fault (List UInt8) :=
  if !v.type.isEncodable then .error (.unsupportedType v.type)
  else if room < v.encoding.size then .error (.insufficientSpace v.encoding.size room)
  else match v.payload with
    | .none | .i64 _ | .u64 _ | .f64 _ => .error (.unsupportedType v.type)
    | .string bs => .ok (Utf8.pad v.encoding.size bs)
    | p => .ok p.wire

/-- The bytes of a value, where there is always room. -/
def encode (v : Value) : Except Fault (List UInt8) := encodeWithin v.encoding.size v

/-- The payload that the bytes of a field hold, by type. -/
def payload (t : PointType) (field : List UInt8) : Payload :=
  match t with
  | .int16 | .sunssf => .i16 (UInt16.ofNat (bigEndian field)).toInt16
  | .uint16 | .acc16 | .enum16 | .bitfield16 => .u16 (UInt16.ofNat (bigEndian field))
  | .int32 => .i32 (UInt32.ofNat (bigEndian field)).toInt32
  | .uint32 | .acc32 | .bitfield32 => .u32 (UInt32.ofNat (bigEndian field))
  | .float32 => .f32 (UInt32.ofNat (bigEndian field))
  | .int64 => .i64 (UInt64.ofNat (bigEndian field)).toInt64
  | .uint64 => .u64 (UInt64.ofNat (bigEndian field))
  | .float64 => .f64 (UInt64.ofNat (bigEndian field))
  | .string => .string field
  | .null | .undef => .none

/-- The value at the front of the bytes. -/
def decode (e : Encoding) (bytes : List UInt8) : Except Fault Value :=
  if e.type.isSkipped then .error (.unsupportedType e.type)
  else
    let field := bytes.take e.size
    if field.length < e.size then .error (.truncated e.size field.length)
    else .ok (.ofParts e (payload e.type field) field)

end Codec

/-- A buffer of fixed capacity that is written from the front. -/
structure Buffer where
  /-- What has been written. -/
  written : List UInt8
  /-- The old contents of the room that is left. -/
  rest : List UInt8
deriving DecidableEq, Repr

namespace Buffer

/-- A buffer with nothing written. -/
def ofContents (old : List UInt8) : Buffer := ⟨[], old⟩

/-- All bytes of a buffer. -/
def contents (b : Buffer) : List UInt8 := b.written ++ b.rest

/-- Write a value behind what has been written. -/
def put (b : Buffer) (v : Value) : Except Fault Buffer := do
  let bs ← Codec.encodeWithin b.rest.length v
  return ⟨b.written ++ bs, b.rest.drop bs.length⟩

end Buffer

end SunSpec
