import SunSpec.Model

/-!
# The chain of model instances

What every device shows: at its base register the two registers of the signature, behind them
model instances one after the other, and behind the last of these the end marker.
-/

namespace SunSpec

/-- The letters `SunS`, as two registers. -/
def signature : List UInt16 := [0x5375, 0x6E53]

/-- The model id that ends the chain. -/
def endMarker : UInt16 := 0xFFFF

/-- The header that stands behind the last instance. -/
def chainEnd : List UInt16 := [endMarker, 0]

/-- The registers that are tried for the signature, in this order. -/
def defaultCandidates : List UInt16 := [1, 40001, 50001]

/-- Registers are numbered from 1; this one has the highest address. -/
def lastRegister : Nat := 65536

end SunSpec
