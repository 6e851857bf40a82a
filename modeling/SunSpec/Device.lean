import SunSpec.RegisterTable

/-!
# Devices

A device answers requests for registers, one at a time. It may change between two requests, so an
answer depends on the state of the device and leaves a new one. `Device.recorded` keeps a list of
what a device was asked for, whether or not it answered.
-/

namespace SunSpec

/-- An action on a device in a state of type `σ`. A fault leaves a state too. -/
abbrev OnDevice (σ α : Type) := ExceptT Fault (StateM σ) α

/-- A request for registers: a protocol address, counted from 0, and a number of registers. -/
structure Request where
  address : UInt16
  count : UInt16
deriving DecidableEq, Repr

/-- Something that answers requests. -/
abbrev Device (σ : Type) := Request → OnDevice σ (List UInt16)

namespace Device

/-- The device that a register table stands for. -/
def ofTable (t : RegisterTable) : Device Unit := fun r => liftExcept (t.read r.address r.count)
where
  /-- An answer that leaves the state alone. -/
  liftExcept {α : Type} (a : Except Fault α) : OnDevice Unit α := ExceptT.mk (pure a)

/-- A device that keeps its requests, the latest first. -/
def recorded {σ : Type} (d : Device σ) : Device (σ × List Request) := fun r =>
  ExceptT.mk fun (s, asked) =>
    let (answer, s) := (d r).run s
    (answer, (s, r :: asked))

end Device

end SunSpec
