import SunSpec.Codec
import SunSpec.Registers
import SunSpec.Registry

/-!
# Data blocks

The values of one model instance, and the registers that carry them. `DataBlock.plan` walks the
model once and says for every point of every instance what is written where; the image is those
bytes laid over zeros. A point without a value carries the "not implemented" pattern of its type.
The 64-bit types cannot be written, so their fields stay zero, and so do gaps and the last byte of
an odd string.
-/

namespace SunSpec

/-- A value for a point. -/
structure PointValue where
  point : String
  /-- The instance of the repeating block; without one the value holds for every instance. -/
  index : Option Nat
  value : Value
deriving DecidableEq, Repr

/-- The value holds for a point of an instance. -/
def PointValue.covers (v : PointValue) (point : String) (index : Option Nat) : Bool :=
  v.point == point && (v.index.isNone || v.index == index)

/-- Values of one model instance. -/
structure DataBlock where
  name : String
  modelId : UInt16
  /-- Instances of the repeating block; a model without one has no use for it. -/
  repeats : UInt64
  values : List PointValue
deriving DecidableEq, Repr

namespace Value

/-- The value as a point takes it: of the same type, and a string with the length of its field. -/
def fitTo (v : Value) (p : Point) : Except Fault Value :=
  if v.type ≠ p.encoding.type then .error (.typeMismatch p.encoding.type v.type)
  else if v.type = .string ∧ v.encoding ≠ p.encoding then
    v.stringBytes.map fun bytes =>
      match Utf8.decode? bytes with
      | some text => ofString text p.encoding.declaredLen
      | none => ofBytes bytes p.encoding.declaredLen
  else .ok v

end Value

/-- What is written for one point of one instance. -/
structure Placement where
  point : Point
  index : Option Nat
  value : Value
  /-- Byte position in the payload. -/
  start : Nat
  bytes : List UInt8
deriving DecidableEq, Repr

/-- A step of the walk over a model that is being written. -/
inductive PlanStep where
  | placed (p : Placement)
  /-- A value was given for a point of a type that cannot be written. -/
  | leftZero (point : Point)
deriving DecidableEq, Repr

/-- How far the walk came. -/
structure Plan where
  steps : Array PlanStep
  fault : Option Fault
deriving DecidableEq, Repr

namespace Plan

/-- What is written, in the order of the walk. -/
def placements (p : Plan) : List Placement :=
  p.steps.toList.filterMap fun | .placed q => some q | .leftZero _ => none

end Plan

/-- Lay bytes over an image from a position on. -/
def overlay (image : Array UInt8) (start : Nat) : List UInt8 → Array UInt8
  | [] => image
  | b :: bs => overlay (image.setIfInBounds start b) (start + 1) bs

namespace DataBlock

/-- The value for a point of an instance: the last that holds for it. -/
def valueFor (d : DataBlock) (point : String) (index : Option Nat) : Option Value :=
  (d.values.reverse.find? fun v => v.covers point index).map PointValue.value

/-- The placement of a point at byte `start` of a payload of `available` bytes. -/
def place (d : DataBlock) (available : Nat) (index : Option Nat) (p : Point) (start : Nat) :
    Except Fault Placement := do
  let value ← match d.valueFor p.name index with
    | some v => v.fitTo p
    | none => .ok (.sentinel p.encoding)
  if available < start + p.size then throw (.insufficientSpace (start + p.size) available)
  let bytes ← Codec.encodeWithin p.size value
  return ⟨p, index, value, start, bytes⟩

/-- The steps for the points of the instance that begins at byte `origin`, behind those made
before. -/
def planPoints (d : DataBlock) (available : Nat) (b : Block) (index : Option Nat) (origin : Nat)
    (steps : Array PlanStep) : (cursor : Nat) → List Point → Plan
  | _, [] => ⟨steps, none⟩
  | cursor, p :: ps =>
    if p.isSkipped then d.planPoints available b index origin steps cursor ps
    else
      let position := b.positionOf p cursor
      let next := position + 2 * p.registers
      if p.encoding.type.is64Bit then
        let steps := if (d.valueFor p.name index).isSome then steps.push (.leftZero p) else steps
        d.planPoints available b index origin steps next ps
      else
        match d.place available index p (origin + position) with
        | .error f => ⟨steps, some f⟩
        | .ok placed => d.planPoints available b index origin (steps.push (.placed placed)) next ps

/-- The steps for `count` instances of a block, from number `k` on. -/
def planInstances (d : DataBlock) (available : Nat) (b : Block) (origin : Nat)
    (steps : Array PlanStep) : (count k : Nat) → Plan
  | 0, _ => ⟨steps, none⟩
  | count + 1, k =>
    let index := if b.repeating then some k else none
    let plan := d.planPoints available b index (origin + k * b.unit) steps 0 b.points
    match plan.fault with
    | some _ => plan
    | none => d.planInstances available b origin plan.steps count (k + 1)

/-- The steps for blocks, each behind the one before it. -/
def planBlocks (d : DataBlock) (available repeats : Nat) (origin : Nat) (steps : Array PlanStep) :
    List Block → Plan
  | [] => ⟨steps, none⟩
  | b :: bs =>
    let count := if b.repeating then repeats else 1
    let plan := d.planInstances available b origin steps count 0
    match plan.fault with
    | some _ => plan
    | none => d.planBlocks available repeats (origin + count * b.unit) plan.steps bs

/-- The instances of the repeating block that a model has room for. -/
def instances (d : DataBlock) (m : Model) : Nat :=
  if m.hasRepeating then d.repeats.toNat else 0

/-- Registers of the payload, which the header must be able to declare. The lengths of the model
are in order. -/
def payloadRegisters (d : DataBlock) (m : Model) : Except Fault UInt16 :=
  let product := d.instances m * m.repeatLen.toNat
  let total := product + m.baseLen.toNat
  if UInt64.size ≤ total then .error (.tooManyRepeats d.name d.repeats.toNat)
  else if total < 65536 then .ok (UInt16.ofNat total)
  else .error (.tooManyRegisters d.name total)

/-- What is written where, in a payload of so many registers. -/
def plan (d : DataBlock) (m : Model) (declared : UInt16) : Plan :=
  d.planBlocks (2 * declared.toNat) (d.instances m) 0 #[] m.blocks

/-- The payload that placements make. -/
def payload (declared : UInt16) (placements : List Placement) : List UInt8 :=
  (placements.foldl (fun image p => overlay image p.start p.bytes)
    (Array.replicate (2 * declared.toNat) 0)).toList

/-- The registers of a model instance: its id, its length, then the payload. The lengths of the
model are in order. -/
def encode (d : DataBlock) (e : Entry) : Except Fault (List UInt16) := do
  let declared ← d.payloadRegisters e.model
  let plan := d.plan e.model declared
  match plan.fault with
  | some f => throw f
  | none => return e.id :: declared :: Registers.ofBytes (payload declared plan.placements)

/-- `encode` under any entry. Registers are counted before anything else, and where the lengths of
the model are out of order this is the end of the program. -/
def encode? (d : DataBlock) (e : Entry) : Option (Except Fault (List UInt16)) :=
  e.model.repeatLen?.map fun _ => d.encode e

theorem encode?_of_le {d : DataBlock} {e : Entry} (ordered : e.model.baseLen ≤ e.model.len) :
    d.encode? e = some (d.encode e) := by
  rw [encode?, Model.repeatLen?_of_le ordered]
  rfl

end DataBlock

end SunSpec
