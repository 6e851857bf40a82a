import SunSpec.Decimal.Fixed

/-!
# The nearest floating-point word

Rounding of an exact non-negative quotient to a floating-point format, a tie to the even word, and
the conversions built on it: decimal numbers and integers to 64-bit words, and 64-bit words to
32-bit ones.
-/

namespace SunSpec.Decimal

/-- The two field widths of a floating-point format. -/
structure Format where
  fraction : Nat
  width : Nat
deriving DecidableEq, Repr

/-- The 32-bit format. -/
def single : Format := ⟨23, 8⟩

/-- The 64-bit format. -/
def double : Format := ⟨52, 11⟩

namespace Format

/-- The word of an infinity without its sign bit. -/
def infinity (f : Format) : Nat := (Nat.pow 2 f.width - 1) * Nat.pow 2 f.fraction

/-- The sign bit. -/
def signBit (f : Format) : Nat := Nat.pow 2 (f.fraction + f.width)

/-- The exponent of the smallest positive value. -/
def leastExponent (f : Format) : Int := 2 - (Nat.pow 2 (f.width - 1) : Nat) - f.fraction

/-- `num / den` divided by `2 ^ e`, rounded. -/
def mantissaAt (num den : Nat) (e : Int) : Nat :=
  if 0 ≤ e then roundDiv num (den * Nat.pow 2 e.toNat)
  else roundDiv (num * Nat.pow 2 (-e).toNat) den

/-- The exponent at which the mantissa of `num / den` fills the fraction and its hidden bit. -/
def exponentFor (f : Format) (num den : Nat) : Int :=
  let guess : Int := (Nat.log2 num : Int) - Nat.log2 den - f.fraction
  let short :=
    if 0 ≤ guess then num < den * Nat.pow 2 guess.toNat * Nat.pow 2 f.fraction
    else num * Nat.pow 2 (-guess).toNat < den * Nat.pow 2 f.fraction
  max (if short then guess - 1 else guess) f.leastExponent

/-- The word nearest to `num / den`, without its sign bit. A mantissa that rounds up to the next
power of two carries into the exponent field. -/
def nearest (f : Format) (num den : Nat) : Nat :=
  if num = 0 then 0
  else
    let e := f.exponentFor num den
    let m := mantissaAt num den e
    min f.infinity ((e - f.leastExponent).toNat * Nat.pow 2 f.fraction + m)

end Format

/-- A decimal number `± mantissa * 10 ^ exponent`. -/
structure Scientific where
  negative : Bool
  mantissa : Nat
  exponent : Int
deriving DecidableEq, Repr

/-- The sign bit of a 64-bit word. -/
def sign64 (negative : Bool) : Nat := if negative then double.signBit else 0

/-- The 64-bit word nearest to a decimal number. Exponents far outside the format are decided
without forming their powers. -/
def Scientific.toBits64 (s : Scientific) : UInt64 :=
  let size : Int := (toString s.mantissa).length
  let word :=
    if s.mantissa = 0 then 0
    else if 400 < s.exponent + size then double.infinity
    else if s.exponent + size < -400 then 0
    else if 0 ≤ s.exponent then double.nearest (s.mantissa * Nat.pow 10 s.exponent.toNat) 1
    else double.nearest s.mantissa (Nat.pow 10 (-s.exponent).toNat)
  UInt64.ofNat (sign64 s.negative + word)

/-- The 64-bit word nearest to an integer. -/
def bits64OfInt (n : Int) : UInt64 :=
  UInt64.ofNat (sign64 (n < 0) + double.nearest n.natAbs 1)

/-- The 32-bit word nearest to a 64-bit one. -/
def narrow (bits : UInt64) : UInt32 :=
  let negative := double.signBit ≤ bits.toNat
  let sign := if negative then single.signBit else 0
  match Binary.ofBits64 bits with
  | .nan => UInt32.ofNat (sign + 0x7FC00000 + bits.toNat / Nat.pow 2 29 % Nat.pow 2 22)
  | .infinite _ => UInt32.ofNat (sign + single.infinity)
  | .finite _ m e =>
    UInt32.ofNat (sign +
      (if 0 ≤ e then single.nearest (m * Nat.pow 2 e.toNat) 1
       else single.nearest m (Nat.pow 2 (-e).toNat)))

/-- A 64-bit word that is neither an infinity nor no number. -/
def isFinite64 (bits : UInt64) : Bool := bits.toNat % double.signBit < double.infinity

end SunSpec.Decimal
