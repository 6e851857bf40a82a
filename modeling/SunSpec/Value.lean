import SunSpec.Fault
import SunSpec.Decimal.Fixed
import SunSpec.Text.Utf8

/-!
# Values

A `Value` is a payload with the encoding it belongs to, a status, the first bytes of its wire image
and, if it is a string, its text. The status comes from the payload: each numeric type that has a
"not implemented" pattern gets that status when the payload is the pattern. Strings keep their wire
bytes; their text is what stands before the first zero byte. Floating-point payloads are kept as
bits, so no pattern is lost.

There are two ways to make a value. `ofParts` puts one together from a payload and the bytes it was
read from, and `fillString` turns a value of any type into a string.
-/

namespace SunSpec

/-- The standing of a value. -/
inductive Status where
  | ok
  | notImplemented
  | error
  | undefined
deriving DecidableEq, Repr

/-- The word for a status. -/
def Status.name : Status → String
  | ok => "ok"
  | notImplemented => "not implemented"
  | error => "error"
  | undefined => "undef"

/-- What a value holds. -/
inductive Payload where
  | none
  | i16 (v : Int16)
  | u16 (v : UInt16)
  | i32 (v : Int32)
  | u32 (v : UInt32)
  | i64 (v : Int64)
  | u64 (v : UInt64)
  /-- A 32-bit floating-point number, as bits. -/
  | f32 (bits : UInt32)
  /-- A 64-bit floating-point number, as bits. -/
  | f64 (bits : UInt64)
  /-- The bytes of a string field, padding included. -/
  | string (wire : List UInt8)
deriving DecidableEq, Repr

/-- The two bytes of a 16-bit word, high byte first. -/
def wordBytes16 (w : UInt16) : List UInt8 :=
  [UInt8.ofNat (w.toNat / 256), UInt8.ofNat (w.toNat % 256)]

/-- The four bytes of a 32-bit word, high byte first. -/
def wordBytes32 (w : UInt32) : List UInt8 :=
  wordBytes16 (UInt16.ofNat (w.toNat / 65536)) ++ wordBytes16 (UInt16.ofNat (w.toNat % 65536))

/-- The eight bytes of a 64-bit word, high byte first. -/
def wordBytes64 (w : UInt64) : List UInt8 :=
  wordBytes32 (UInt32.ofNat (w.toNat / 4294967296)) ++
    wordBytes32 (UInt32.ofNat (w.toNat % 4294967296))

namespace Payload

/-- The bytes of a payload on the wire. -/
def wire : Payload → List UInt8
  | none => []
  | i16 v => wordBytes16 v.toUInt16
  | u16 v => wordBytes16 v
  | i32 v => wordBytes32 v.toUInt32
  | u32 v => wordBytes32 v
  | i64 v => wordBytes64 v.toUInt64
  | u64 v => wordBytes64 v
  | f32 bits => wordBytes32 bits
  | f64 bits => wordBytes64 bits
  | string bs => bs

/-- The text of a payload: of a string what stands before the first zero byte, and nothing of any
other one. -/
def hostText : Payload → String
  | string wire => Utf8.hostText wire
  | _ => ""

/-- The payload is its type's "not implemented" pattern. -/
def isPattern : PointType → Payload → Bool
  | .int16, i16 v | .sunssf, i16 v => v.toUInt16 == 0x8000
  | .uint16, u16 v => v == 0xFFFF
  | .int32, i32 v => v.toUInt32 == 0x80000000
  | .uint32, u32 v => v == 0xFFFFFFFF
  | .float32, f32 bits => Decimal.isNaN32 bits
  | _, _ => false

/-- Equality of payloads; floating-point numbers are equal as numbers. -/
def numEq : Payload → Payload → Bool
  | f32 a, f32 b => Decimal.numEq32 a b
  | f64 a, f64 b => Decimal.numEq64 a b
  | a, b => decide (a = b)

end Payload

/-- How many wire bytes a value keeps. -/
def rawCapacity : Nat := 16

/-- A typed datum. -/
structure Value where
  encoding : Encoding
  status : Status
  /-- The first bytes of the wire image, filled up with zeros. -/
  rawStorage : List UInt8
  /-- How many bytes of the storage are of the image. -/
  rawCount : UInt8
  payload : Payload
  /-- The text of a string. -/
  text : String
deriving DecidableEq, Repr

namespace Value

/-- The type of a value. -/
def type (v : Value) : PointType := v.encoding.type

/-- The value has a reading that can be used. -/
def isOk (v : Value) : Bool := v.status = .ok

/-- The first bytes of the wire image. -/
def raw (v : Value) : List UInt8 := v.rawStorage.take v.rawCount.toNat

/-- The value keeps the first bytes of an image, in place of what it kept before. -/
def setRaw (v : Value) (image : List UInt8) : Value :=
  { v with
    rawStorage := Utf8.pad rawCapacity image
    rawCount := UInt8.ofNat (min image.length rawCapacity) }

/-- The status that a payload of a given type has. -/
def statusOf (t : PointType) (p : Payload) : Status :=
  if t.isSkipped then .undefined
  else if p.isPattern t then .notImplemented
  else .ok

/-- A place holder for a point that has no reading. -/
def undefined (e : Encoding) : Value :=
  ⟨e, .undefined, List.replicate rawCapacity 0, 0, .none, ""⟩

/-- A payload under an encoding, with the status that it has and the image that it was read from. -/
def ofParts (e : Encoding) (p : Payload) (image : List UInt8) : Value :=
  let v := { undefined e with status := statusOf e.type p, payload := p, text := p.hostText }
  v.setRaw image

/-- A payload under an encoding, with its own wire image. -/
def ofPayload (e : Encoding) (p : Payload) : Value := ofParts e p p.wire

/-- The empty value of the null type. -/
def null : Value := undefined (.plain .null)

/-- A numeric payload of a type. -/
def numeric (t : PointType) (p : Payload) : Value := ofPayload (.plain t) p

def ofInt16 (v : Int16) : Value := numeric .int16 (.i16 v)

def ofUInt16 (v : UInt16) : Value := numeric .uint16 (.u16 v)

def ofAcc16 (v : UInt16) : Value := numeric .acc16 (.u16 v)

def ofEnum16 (v : UInt16) : Value := numeric .enum16 (.u16 v)

def ofBitfield16 (v : UInt16) : Value := numeric .bitfield16 (.u16 v)

def ofScaleFactor (v : Int16) : Value := numeric .sunssf (.i16 v)

def ofInt32 (v : Int32) : Value := numeric .int32 (.i32 v)

def ofUInt32 (v : UInt32) : Value := numeric .uint32 (.u32 v)

def ofAcc32 (v : UInt32) : Value := numeric .acc32 (.u32 v)

def ofBitfield32 (v : UInt32) : Value := numeric .bitfield32 (.u32 v)

def ofFloat32 (bits : UInt32) : Value := numeric .float32 (.f32 bits)

def ofInt64 (v : Int64) : Value := numeric .int64 (.i64 v)

def ofUInt64 (v : UInt64) : Value := numeric .uint64 (.u64 v)

def ofFloat64 (bits : UInt64) : Value := numeric .float64 (.f64 bits)

/-- The value becomes a string field of `len` bytes over any bytes, filled up with zeros or cut. -/
def fillString (v : Value) (bs : List UInt8) (len : UInt16) : Value :=
  let wire := Utf8.pad len.toNat bs
  let recast := { v with encoding := .string len, status := .ok }
  { recast.setRaw wire with payload := .string wire, text := Utf8.hostText wire }

/-- The value becomes a string field of `len` bytes, cut between characters. -/
def setString (v : Value) (s : String) (len : UInt16) : Value :=
  v.fillString (Utf8.encodeChars (Utf8.fit len.toNat s.toList)) len

/-- A string field of `len` bytes over any bytes, filled up with zeros or cut. -/
def ofBytes (bs : List UInt8) (len : UInt16) : Value := (undefined (.string len)).fillString bs len

/-- A string field of `len` bytes, cut between characters. -/
def ofString (s : String) (len : UInt16) : Value := (undefined (.string len)).setString s len

/-- The "not implemented" pattern of an encoding, or zero where the type has none. -/
def sentinel (e : Encoding) : Value :=
  match e.type with
  | .int16 => ofInt16 (UInt16.toInt16 0x8000)
  | .sunssf => ofScaleFactor (UInt16.toInt16 0x8000)
  | .uint16 => ofUInt16 0xFFFF
  | .acc16 => ofAcc16 0
  | .enum16 => ofEnum16 0
  | .bitfield16 => ofBitfield16 0
  | .int32 => ofInt32 (UInt32.toInt32 0x80000000)
  | .uint32 => ofUInt32 0xFFFFFFFF
  | .acc32 => ofAcc32 0
  | .bitfield32 => ofBitfield32 0
  | .float32 => ofFloat32 0x7FC00000
  | .int64 => ofInt64 0
  | .uint64 => ofUInt64 0
  | .float64 => ofFloat64 0
  | .string => ofString "" e.declaredLen
  | .null | .undef => undefined e

/-! ## Checked access -/

/-- The payload seen by `view`, if the value is of type `t` and holds such a payload. -/
def read {α : Type} (v : Value) (t : PointType) (view : Payload → Option α) : Except Fault α :=
  match if v.type = t then view v.payload else none with
  | some a => .ok a
  | none => .error (.typeMismatch t v.type)

/-- View of a signed 16-bit payload. -/
def viewI16 : Payload → Option Int16
  | .i16 v => some v
  | _ => none

/-- View of an unsigned 16-bit payload. -/
def viewU16 : Payload → Option UInt16
  | .u16 v => some v
  | _ => none

/-- View of an unsigned 32-bit payload. -/
def viewU32 : Payload → Option UInt32
  | .u32 v => some v
  | _ => none

/-- View of the bytes of a string. -/
def viewString : Payload → Option (List UInt8)
  | .string bs => some bs
  | _ => none

def int16 (v : Value) : Except Fault Int16 := v.read .int16 viewI16

def scaleFactor (v : Value) : Except Fault Int16 := v.read .sunssf viewI16

def uint16 (v : Value) : Except Fault UInt16 := v.read .uint16 viewU16

def acc16 (v : Value) : Except Fault UInt16 := v.read .acc16 viewU16

def enum16 (v : Value) : Except Fault UInt16 := v.read .enum16 viewU16

def bitfield16 (v : Value) : Except Fault UInt16 := v.read .bitfield16 viewU16

def int32 (v : Value) : Except Fault Int32 :=
  v.read .int32 fun | .i32 n => some n | _ => none

def uint32 (v : Value) : Except Fault UInt32 := v.read .uint32 viewU32

def acc32 (v : Value) : Except Fault UInt32 := v.read .acc32 viewU32

def bitfield32 (v : Value) : Except Fault UInt32 := v.read .bitfield32 viewU32

def int64 (v : Value) : Except Fault Int64 :=
  v.read .int64 fun | .i64 n => some n | _ => none

def uint64 (v : Value) : Except Fault UInt64 :=
  v.read .uint64 fun | .u64 n => some n | _ => none

/-- The bits of a 32-bit floating-point value. -/
def float32 (v : Value) : Except Fault UInt32 :=
  v.read .float32 fun | .f32 n => some n | _ => none

/-- The bits of a 64-bit floating-point value. -/
def float64 (v : Value) : Except Fault UInt64 :=
  v.read .float64 fun | .f64 n => some n | _ => none

/-- The bytes of a string field, padding included. -/
def stringBytes (v : Value) : Except Fault (List UInt8) := v.read .string viewString

/-- The text of a string field. -/
def string (v : Value) : Except Fault String := v.stringBytes.map fun _ => v.text

/-- The number that the defines of an enumeration or a bit field are looked up by. -/
def asUInt32 (v : Value) : Option UInt32 :=
  match v.payload with
  | .u16 n => some (UInt32.ofNat n.toNat)
  | .u32 n => some n
  | _ => none

/-- Equality of all parts; floating-point payloads are equal as numbers. -/
def numEq (a b : Value) : Bool :=
  decide (a.encoding = b.encoding) && decide (a.status = b.status) &&
    a.rawStorage == b.rawStorage && a.rawCount == b.rawCount && a.payload.numEq b.payload &&
    a.text == b.text

/-! ## Display -/

/-- Floating-point readings have six decimals. -/
def decimals : Nat := 6

/-- The text of a value: its status unless it is `ok`, bit fields in hexadecimal, and every other
payload in plain. -/
def display (v : Value) : String :=
  if v.status ≠ .ok then v.status.name
  else match v.type, v.payload with
    | .null, _ => "null type"
    | .undef, _ => "undef type"
    | .bitfield16, .u16 n => "0x" ++ Hex.padded 4 n.toNat
    | .bitfield32, .u32 n => "0x" ++ Hex.padded 8 n.toNat
    | _, .i16 n => toString n.toInt
    | _, .u16 n => toString n.toNat
    | _, .i32 n => toString n.toInt
    | _, .u32 n => toString n.toNat
    | _, .i64 n => toString n.toInt
    | _, .u64 n => toString n.toNat
    | _, .f32 bits => Decimal.fixed decimals (.ofBits32 bits)
    | _, .f64 bits => Decimal.fixed decimals (.ofBits64 bits)
    | _, .string _ => v.text
    | t, .none => s!" unknown type {t.name}"

end Value

end SunSpec
