import SunSpec.Device

/-!
# Scripted devices

A device made for rehearsals. Its registers are given by segments, later ones over earlier ones,
and its script says which requests fail and which are answered by too many or too few registers.
The requests are numbered from 0.
-/

namespace SunSpec

/-- Registers in a row. -/
structure Segment where
  /-- The first of them, counted from 1. -/
  first : Nat
  values : Array UInt16

/-- What a device does when it is asked for a register that nothing gives. -/
inductive Unlisted where
  | readsZero
  | fails
deriving DecidableEq

/-- The script of a device. -/
structure Script where
  segments : List Segment
  unlisted : Unlisted
  /-- Requests that fail, by number, with the detail of the fault. -/
  failing : List (Nat × String)
  /-- Requests that are answered with another number of registers, by number. -/
  resized : List (Nat × Nat)

namespace Script

/-- The register of a number: that of the last segment that reaches it. -/
def register? (s : Script) (n : Nat) : Option UInt16 :=
  s.segments.reverse.findSome? fun g => if n < g.first then none else g.values[n - g.first]?

/-- The registers of numbers, in their order. -/
def registers (s : Script) (numbers : List Nat) : Except Fault (List UInt16) :=
  numbers.mapM fun n =>
    match s.register? n, s.unlisted with
    | some v, _ => .ok v
    | none, .readsZero => .ok 0
    | none, .fails => .error (.protocol s!"no register {n}")

/-- The answer to the request of a number. -/
def answer (s : Script) (number : Nat) (r : Request) : Except Fault (List UInt16) :=
  match s.failing.lookup number with
  | some detail => .error (.io detail)
  | none =>
    let count := (s.resized.lookup number).getD r.count.toNat
    s.registers ((List.range count).map fun i => r.address.toNat + 1 + i)

/-- The device of a script; its state is the number of requests so far. -/
def device (s : Script) : Device Nat := fun r =>
  ExceptT.mk fun number => (s.answer number r, number + 1)

end Script

end SunSpec
