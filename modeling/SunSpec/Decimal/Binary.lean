/-!
# Binary floating-point words

What the bits of an IEEE word of 32 or 64 bits stand for: no number, an infinity, or the exact
value `± mantissa * 2 ^ exponent`. Texts of floating-point values are computed from this view in
exact integer arithmetic.
-/

namespace SunSpec.Decimal

/-- The meaning of a floating-point word. -/
inductive Binary where
  | nan
  | infinite (negative : Bool)
  /-- The value `± mantissa * 2 ^ exponent`. -/
  | finite (negative : Bool) (mantissa : Nat) (exponent : Int)
deriving DecidableEq, Repr

namespace Binary

/-- The meaning of a word with `fraction` fraction bits and `width` exponent bits. -/
def ofWord (fraction width : Nat) (word : Nat) : Binary :=
  let negative := word / Nat.pow 2 (fraction + width) % 2 == 1
  let biased := word / Nat.pow 2 fraction % Nat.pow 2 width
  let rest := word % Nat.pow 2 fraction
  let bias : Int := (Nat.pow 2 (width - 1) : Nat) - 1 + fraction
  if biased = Nat.pow 2 width - 1 then if rest = 0 then infinite negative else nan
  else if biased = 0 then finite negative rest (1 - bias)
  else finite negative (rest + Nat.pow 2 fraction) (biased - bias)

/-- The meaning of a 32-bit word. -/
def ofBits32 (bits : UInt32) : Binary := ofWord 23 8 bits.toNat

/-- The meaning of a 64-bit word. -/
def ofBits64 (bits : UInt64) : Binary := ofWord 52 11 bits.toNat

end Binary

/-- A 32-bit word that is no number: exponent all ones and a fraction. -/
def isNaN32 (bits : UInt32) : Bool := 0x7F800000 < bits.toNat % 0x80000000

/-- A 64-bit word that is no number. -/
def isNaN64 (bits : UInt64) : Bool := 0x7FF0000000000000 < bits.toNat % 0x8000000000000000

/-- Equality of 32-bit words as numbers: no number equals nothing, and the two zeros are equal. -/
def numEq32 (a b : UInt32) : Bool :=
  !isNaN32 a && !isNaN32 b &&
    (a == b || (a.toNat % 0x80000000 == 0 && b.toNat % 0x80000000 == 0))

/-- Equality of 64-bit words as numbers. -/
def numEq64 (a b : UInt64) : Bool :=
  !isNaN64 a && !isNaN64 b &&
    (a == b || (a.toNat % 0x8000000000000000 == 0 && b.toNat % 0x8000000000000000 == 0))

end SunSpec.Decimal
