import SunSpec.Decimal.Nearest

/-!
# Reading decimal numbers

A sign, digits with at most one point among or beside them, and a power of ten. At least one digit
must stand in front of the power.
-/

namespace SunSpec.Decimal

/-- The number that decimal digits stand for. -/
def ofDigits (ds : List Char) : Nat := ds.foldl (fun n c => n * 10 + (c.toNat - 48)) 0

/-- A sign, and what stands behind it. -/
def splitSign : List Char → Bool × List Char
  | '-' :: rest => (true, rest)
  | '+' :: rest => (false, rest)
  | rest => (false, rest)

/-- A power of ten, or nothing at all. -/
def power? : List Char → Option Int
  | [] => some 0
  | c :: rest =>
    let (negative, ds) := splitSign rest
    if (c == 'e' || c == 'E') && !ds.isEmpty && ds.all Char.isDigit then
      some (if negative then -ofDigits ds else ofDigits ds)
    else none

/-- The number that a text stands for. -/
def Scientific.ofText? (text : List Char) : Option Scientific := do
  let (negative, rest) := splitSign text
  let whole := rest.takeWhile Char.isDigit
  let rest := rest.dropWhile Char.isDigit
  let (fraction, rest) := match rest with
    | '.' :: rest => (rest.takeWhile Char.isDigit, rest.dropWhile Char.isDigit)
    | rest => ([], rest)
  if whole.isEmpty && fraction.isEmpty then none
  let power ← power? rest
  return ⟨negative, ofDigits (whole ++ fraction), power - fraction.length⟩

end SunSpec.Decimal
