import SunSpec.Decimal.Binary

/-!
# Fixed-point text

A floating-point value with a fixed number of decimals, rounded from its exact value; an exact tie
goes to the even digit.
-/

namespace SunSpec.Decimal

/-- The quotient rounded to the nearest integer, a tie to the even one. -/
def roundDiv (num den : Nat) : Nat :=
  let q := num / den
  let r := num % den
  if 2 * r < den then q
  else if den < 2 * r then q + 1
  else if q % 2 = 0 then q else q + 1

/-- `mantissa * 2 ^ exponent * scale`, rounded. -/
def scaled (mantissa : Nat) (exponent : Int) (scale : Nat) : Nat :=
  if 0 ≤ exponent then mantissa * Nat.pow 2 exponent.toNat * scale
  else roundDiv (mantissa * scale) (Nat.pow 2 (-exponent).toNat)

/-- A natural number in decimal, with zeros in front up to `width` digits. -/
def padded (width n : Nat) : String :=
  let ds := (toString n).toList
  String.ofList (List.replicate (width - ds.length) '0' ++ ds)

/-- A value with `places` decimals. -/
def fixed (places : Nat) : Binary → String
  | .nan => "NaN"
  | .infinite negative => if negative then "-inf" else "inf"
  | .finite negative mantissa exponent =>
    let unit := Nat.pow 10 places
    let n := scaled mantissa exponent unit
    let whole := toString (n / unit)
    let body := if places = 0 then whole else whole ++ "." ++ padded places (n % unit)
    if negative then "-" ++ body else body

end SunSpec.Decimal
