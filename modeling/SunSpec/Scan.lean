import SunSpec.Dataset
import SunSpec.Device

/-!
# Scanning a device

The signature is looked for at each candidate register in turn; from the register behind it the
chain of instances is walked, each read once as a header and once in full. A walk is recorded as a
list of visits, one for every register at which a header was looked for, and the fault that ended
it, if it did not end at the end marker. What was found is a view of the visits.

No request asks for more registers than the protocol allows; a longer read is cut into parts.
-/

namespace SunSpec

/-- The largest number of registers that one request may ask for. -/
structure ReadLimit where
  registers : Nat
  positive : 1 ≤ registers
  allowed : registers ≤ 125

namespace ReadLimit

/-- The limit of the protocol. -/
def protocol : ReadLimit := ⟨125, by omega, by omega⟩

/-- The limit nearest to a number. -/
def clamp (n : UInt16) : ReadLimit := ⟨max 1 (min 125 n.toNat), by omega, by omega⟩

end ReadLimit

/-- A part of a read: its first register, counted from 1, and its length. -/
structure Part where
  register : Nat
  count : Nat
deriving DecidableEq, Repr

namespace Part

/-- The parts of a read of `count` registers. -/
def split (limit : ReadLimit) (register count : Nat) : List Part :=
  (List.range ((count + limit.registers - 1) / limit.registers)).map fun i =>
    let done := i * limit.registers
    ⟨register + done, min limit.registers (count - done)⟩

/-- The protocol address of a register, counted from 0. -/
def address (register : Nat) : Except Fault UInt16 :=
  if 1 ≤ register ∧ register ≤ lastRegister then .ok (UInt16.ofNat (register - 1))
  else .error (.outsideAddressSpace register)

/-- The request for a part, all of whose registers need an address. -/
def request (p : Part) : Except Fault Request := do
  let first ← address p.register
  let _ ← address (p.register + p.count - 1)
  return ⟨first, UInt16.ofNat p.count⟩

end Part

namespace Device

variable {σ : Type}

/-- Read parts one after the other, up to the first fault. -/
def readParts (d : Device σ) (acc : Array UInt16) : List Part → OnDevice σ (List UInt16)
  | [] => return acc.toList
  | p :: ps => do
    let request ← ExceptT.mk (pure p.request)
    let got ← d request
    if got.length ≠ p.count then throw (.shortRead p.register p.count got.length)
    d.readParts (acc ++ got) ps

/-- Read `count` registers from a register on, counted from 1. -/
def read (d : Device σ) (limit : ReadLimit) (register count : Nat) : OnDevice σ (List UInt16) :=
  d.readParts #[] (Part.split limit register count)

end Device

/-! ## What a scan finds -/

/-- A model instance on a device. -/
inductive Event where
  /-- One whose id is registered, read. -/
  | model (register : Nat) (dataset : Dataset)
  /-- One whose id is not; its header and payload are kept as bytes. -/
  | unknown (register : Nat) (id length : UInt16) (bytes : List UInt8)
deriving DecidableEq

namespace Event

/-- The register of the header. -/
def register : Event → Nat
  | model r _ | unknown r .. => r

/-- The dataset of an instance that was read. -/
def dataset? : Event → Option Dataset
  | model _ d => some d
  | unknown .. => none

/-- The id of an instance that was not. -/
def unknownId? : Event → Option UInt16
  | model .. => none
  | unknown _ id .. => some id

end Event

/-- What a header says. -/
structure Header where
  id : UInt16
  length : UInt16
deriving DecidableEq, Repr

namespace Header

/-- Registers of the instance, the header included. -/
def total (h : Header) : Nat := headerRegisters + h.length.toNat

end Header

/-- A look at one register of the chain. -/
structure Visit where
  register : Nat
  /-- The header that was read there. -/
  header : Option Header
  /-- The instance that was found there. -/
  event : Option Event
deriving DecidableEq

/-- A candidate register and what was read there. -/
structure Probe where
  candidate : UInt16
  answer : Except Fault (List UInt16)

/-- A candidate holds the signature. -/
def Probe.isHit (p : Probe) : Bool :=
  match p.answer with
  | .ok regs => regs == signature
  | .error _ => false

/-- A search for the signature: the probes made, of which only the last can have hit. -/
structure Search where
  probes : List Probe
  result : Except Fault UInt16

/-- A walk along the chain. -/
structure Walk where
  visits : List Visit
  fault : Option Fault

namespace Walk

/-- The instances found, in their order. -/
def events (w : Walk) : List Event := w.visits.filterMap Visit.event

end Walk

/-- A search and, if it found the signature, the walk from there. -/
structure Scan where
  search : Search
  walk : Walk

namespace Scan

/-- The instances found, in their order. They stand even if the walk ended in a fault. -/
def events (s : Scan) : List Event := s.walk.events

/-- The base register of a walk that reached the end marker. -/
def outcome (s : Scan) : Except Fault UInt16 :=
  match s.walk.fault with
  | some f => .error f
  | none => s.search.result

/-- The datasets among the instances. -/
def datasets (s : Scan) : List Dataset := s.events.filterMap Event.dataset?

/-- The ids of the instances that are not registered. -/
def unknownIds (s : Scan) : List UInt16 := s.events.filterMap Event.unknownId?

end Scan

/-! ## The scanner -/

/-- How devices are scanned. -/
structure Scanner where
  registry : Registry
  candidates : List UInt16
  limit : ReadLimit

namespace Scanner

variable {σ : Type}

/-- A scanner that tries the usual registers and reads as much at once as the protocol allows. -/
def ofRegistry (registry : Registry) : Scanner := ⟨registry, defaultCandidates, .protocol⟩

/-- Try candidates, up to the first that holds the signature. -/
def probe (s : Scanner) (d : Device σ) : List UInt16 → StateM σ Search
  | [] => return ⟨[], .error (.signatureNotFound s.candidates)⟩
  | c :: cs => do
    let p : Probe := ⟨c, ← (d.read s.limit c.toNat signature.length).run⟩
    if p.isHit then return ⟨[p], .ok c⟩
    let rest ← s.probe d cs
    return { rest with probes := p :: rest.probes }

/-- Look for the signature. -/
def search (s : Scanner) (d : Device σ) : StateM σ Search := s.probe d s.candidates

/-- The header at a register. -/
def readHeader (s : Scanner) (d : Device σ) (register : Nat) : OnDevice σ Header := do
  match ← d.read s.limit register headerRegisters with
  | [id, length] => return ⟨id, length⟩
  | other => throw (.shortRead register headerRegisters other.length)

/-- The instance of a header, read in full. -/
def readInstance (s : Scanner) (d : Device σ) (register : Nat) (h : Header) :
    OnDevice σ Event := do
  if 65536 ≤ h.total then throw (.modelTooLong h.id register h.length)
  let bytes := Registers.toBytes (← d.read s.limit register h.total)
  if s.registry.contains h.id then
    let dataset ← ExceptT.mk (pure (Dataset.decode s.registry bytes))
    return .model register dataset
  else return .unknown register h.id h.length bytes

/-- Walk the chain from a register on. A register past the last has no address, so the walk is as
long at most as the address space. -/
def walk (s : Scanner) (d : Device σ) (acc : Array Visit) (register : Nat) : StateM σ Walk := do
  if lastRegister < register then
    return ⟨(acc.push ⟨register, none, none⟩).toList, some (.outsideAddressSpace register)⟩
  else
    match ← (s.readHeader d register).run with
    | .error f => return ⟨(acc.push ⟨register, none, none⟩).toList, some f⟩
    | .ok h =>
      if h.id = endMarker then return ⟨(acc.push ⟨register, some h, none⟩).toList, none⟩
      else if h.id = 0 then
        return ⟨(acc.push ⟨register, some h, none⟩).toList, some (.missingEndMarker register)⟩
      else
        match ← (s.readInstance d register h).run with
        | .error f => return ⟨(acc.push ⟨register, some h, none⟩).toList, some f⟩
        | .ok event => s.walk d (acc.push ⟨register, some h, some event⟩) (register + h.total)
termination_by lastRegister + 1 - register
decreasing_by simp only [Header.total, headerRegisters]; omega

/-- Look for the signature and walk the chain behind it. -/
def scan (s : Scanner) (d : Device σ) : StateM σ Scan := do
  let search ← s.search d
  match search.result with
  | .error f => return ⟨search, [], some f⟩
  | .ok base => return ⟨search, ← s.walk d #[] (base.toNat + signature.length)⟩

end Scanner

end SunSpec
