import SunSpec.Codec
import SunSpec.Registers
import SunSpec.Registry

/-!
# Readings and datasets

One model instance as a device sends it, header and payload in wire order, read into values. Soft
problems are kept as diagnostics beside the readings; only a buffer without a header and an id
without a model are faults. No field is read from bytes outside the payload.

A repeating block is read as many whole times as its bytes allow. The first problem that a block
meets ends the dataset there, so the readings are always those of a prefix of the model.
-/

namespace SunSpec

/-- The value of one point, in one instance of its block. -/
structure Reading where
  point : Point
  /-- Number of the instance of a repeating block. -/
  index : Option Nat
  value : Value
deriving DecidableEq, Repr

namespace Reading

/-- The name of the point. -/
def name (r : Reading) : String := r.point.name

/-- The number that defines are looked up by, of a reading that can be used. -/
def code? (r : Reading) : Option UInt32 := if r.value.isOk then r.value.asUInt32 else none

/-- The names of the defines that a reading shows. -/
def labels (r : Reading) : List String :=
  match r.code? with
  | none => []
  | some code =>
    match r.value.type with
    | .enum16 => ((r.point.enumLabel? code).map Define.name).toList
    | .bitfield16 | .bitfield32 => (r.point.bitLabels code).map Define.name
    | _ => []

end Reading

/-! ## Blocks -/

/-- How far one instance of a block was read. -/
structure InstanceReading where
  readings : List Reading
  /-- End of the last field, in whole registers, counted from the start of the instance. -/
  cursor : Nat
  /-- End of the field that did not fit. -/
  shortfall : Option Nat
deriving DecidableEq, Repr

/-- What was read of a block. -/
structure BlockReading where
  readings : List Reading
  /-- Bytes that belong to the block. -/
  consumed : Nat
  /-- Why the block was not read to its end. -/
  diagnostic : Option Diagnostic
deriving DecidableEq, Repr

namespace Block

/-- Read points of one instance from the bytes behind its start, of which there are `left`. -/
def readPoints (b : Block) (index : Option Nat) (bytes : List UInt8) (left : Nat) :
    Nat → List Point → InstanceReading
  | cursor, [] => ⟨[], cursor, none⟩
  | cursor, p :: ps =>
    if p.isSkipped then
      let rest := b.readPoints index bytes left cursor ps
      { rest with readings := ⟨p, index, .undefined p.encoding⟩ :: rest.readings }
    else
      let position := b.positionOf p cursor
      if left < position + p.size then ⟨[], cursor, some (position + p.size)⟩
      else
        let value := match Codec.decode p.encoding (bytes.drop position) with
          | .ok v => v
          | .error _ => .undefined p.encoding
        let rest := b.readPoints index bytes left (position + 2 * p.registers) ps
        { rest with readings := ⟨p, index, value⟩ :: rest.readings }

/-- The number of an instance, where the block repeats. -/
def indexOf (b : Block) (k : Nat) : Option Nat := if b.repeating then some k else none

/-- Read `count` instances from number `k` on, of a slice of `available` bytes of which `bytes`
are those behind the start of instance `k`. -/
def readInstances (b : Block) (available : Nat) (acc : Array Reading) (consumed : Nat) :
    (count k : Nat) → List UInt8 → BlockReading
  | 0, _, _ => ⟨acc.toList, consumed, none⟩
  | count + 1, k, bytes =>
    let origin := k * b.unit
    let r := b.readPoints (b.indexOf k) bytes (available - origin) 0 b.points
    match r.shortfall with
    | some needed =>
      ⟨(acc ++ r.readings).toList, min (max consumed (origin + r.cursor)) available,
        some (.ofFault (.truncated (origin + needed) available))⟩
    | none =>
      b.readInstances available (acc ++ r.readings) (min (origin + max b.unit r.cursor) available)
        count (k + 1) (bytes.drop b.unit)

/-- The diagnostic of bytes behind the last whole instance. -/
def tailDiagnostic (b : Block) (available : Nat) : Option Diagnostic :=
  if available % b.unit = 0 then none
  else some (.warning .overrun
    s!"{available % b.unit} trailing bytes do not fill a {b.unit} byte repeat instance")

/-- Read a block from a slice of bytes. -/
def read (b : Block) (bytes : List UInt8) : BlockReading :=
  let available := bytes.length
  if !b.repeating then b.readInstances available #[] 0 1 0 bytes
  else if b.unit = 0 then
    ⟨[], 0, some (.warning .truncation "repeating block has zero length; no instances decoded")⟩
  else
    let r := b.readInstances available #[] 0 (available / b.unit) 0 bytes
    { r with diagnostic := r.diagnostic <|> b.tailDiagnostic available }

end Block

/-! ## Datasets -/

/-- What was read of consecutive blocks. -/
structure BlocksReading where
  readings : List Reading
  consumed : Nat
  /-- The problem of the block that was read last, and whether readings are missing for it. -/
  stop : Option (Diagnostic × Bool)
deriving DecidableEq, Repr

/-- A problem that leaves readings missing; a block without points has none to miss. -/
def Diagnostic.cutsShort (d : Diagnostic) (b : Block) : Bool :=
  d.kind = .overrun || (d.kind = .truncation && !b.isEmpty)

/-- Read blocks one after the other, each from where the one before it ended. -/
def readBlocks : List Block → List UInt8 → BlocksReading
  | [], _ => ⟨[], 0, none⟩
  | b :: bs, bytes =>
    let r := b.read bytes
    match r.diagnostic with
    | some d => ⟨r.readings, r.consumed, some (d, d.cutsShort b)⟩
    | none =>
      let rest := readBlocks bs (bytes.drop r.consumed)
      ⟨r.readings ++ rest.readings, r.consumed + rest.consumed, rest.stop⟩

/-- One model instance, read. -/
structure Dataset where
  entry : Entry
  /-- The length that the device declares, in registers. -/
  declared : UInt16
  readings : List Reading
  /-- Problems of the header and of the size of the buffer. -/
  notes : List Diagnostic
  /-- The problem of the block that was read last. -/
  stop : Option Diagnostic
  /-- Readings are missing. -/
  isPartial : Bool
  /-- Payload bytes that belong to the blocks. -/
  consumed : Nat
deriving DecidableEq, Repr

namespace Dataset

/-- All problems, in the order in which they came up. -/
def diagnostics (d : Dataset) : List Diagnostic := d.notes ++ d.stop.toList

/-- The first value of a point. -/
def get? (d : Dataset) (name : String) : Option Value :=
  (d.readings.find? fun r => r.name == name).map Reading.value

/-- All readings of a point, in the order of instances. -/
def all (d : Dataset) (name : String) : List Reading :=
  d.readings.filter fun r => r.name == name

/-- The number of instances of the repeating block. -/
def repeatCount (d : Dataset) : Nat :=
  d.readings.foldl (fun n r => match r.index with | some k => max n (k + 1) | none => n) 0

/-- The payload bytes that a model asks for: those of its own geometry, or the declared ones where
a block repeats, so that every instance the device reports is visited. -/
def wanted (m : Model) (declared : UInt16) : Nat :=
  2 * (if m.hasRepeating then declared else m.len).toNat

/-- Read the payload behind a header. The models of a registry were laid out, so that their lengths
are in order. -/
def ofPayload (e : Entry) (declared : UInt16) (payload : List UInt8) : Dataset :=
  let wanted := wanted e.model declared
  let short := payload.length < wanted
  let overrun := Diagnostic.warning .overrun
    s!"payload needs {wanted} bytes but buffer holds {payload.length}"
  let mismatch := (e.model.checkLength e.id declared).map Diagnostic.ofFault
  let r := readBlocks e.model.blocks (payload.take wanted)
  { entry := e
    declared
    readings := r.readings
    notes := mismatch.toList ++ if short then [overrun] else []
    stop := r.stop.map Prod.fst
    isPartial := short || (r.stop.map Prod.snd).getD false
    consumed := r.consumed }

/-- Read a model instance: two bytes of id, two of length, then the payload. -/
def decode (registry : Registry) (buffer : List UInt8) : Except Fault Dataset :=
  match buffer with
  | i1 :: i0 :: n1 :: n0 :: payload => do
    let e ← registry.get (Registers.ofPair i1 i0)
    return ofPayload e (Registers.ofPair n1 n0) payload
  | short => .error (.truncated headerBytes short.length)

end Dataset

end SunSpec
