/-!
# Hexadecimal text

Bytes and numbers as hexadecimal digits, and the reading of a hexadecimal image. Reading counts
digits before it looks at them, so an odd number of digits is reported ahead of a bad digit.
-/

namespace SunSpec.Hex

/-- The lower-case digit of a value below 16. -/
def digit (n : Nat) : Char :=
  if n < 10 then Char.ofNat (48 + n) else Char.ofNat (87 + n)

/-- The value of a digit of either case. -/
def value? (c : Char) : Option Nat :=
  if '0' ≤ c ∧ c ≤ '9' then some (c.toNat - 48)
  else if 'a' ≤ c ∧ c ≤ 'f' then some (c.toNat - 87)
  else if 'A' ≤ c ∧ c ≤ 'F' then some (c.toNat - 55)
  else none

/-- The lowest `width` digits of a number, highest first. -/
def digits : Nat → Nat → List Char
  | 0, _ => []
  | width + 1, n => digits width (n / 16) ++ [digit (n % 16)]

/-- A number in at least `width` digits. -/
def padded (width n : Nat) : String :=
  let ds := Nat.toDigits 16 n
  String.ofList (List.replicate (width - ds.length) '0' ++ ds)

/-- Two digits for each byte. -/
def ofBytes (bs : List UInt8) : String :=
  String.ofList (bs.flatMap fun b => [digit (b.toNat / 16), digit (b.toNat % 16)])

/-- Why a hexadecimal image cannot be read. -/
inductive Fault where
  | oddLength
  /-- The byte at `position` is not a digit. -/
  | badDigit (byte : UInt8) (position : Nat)
deriving DecidableEq, Repr

/-- The digit at a position. -/
def digitAt (b : UInt8) (position : Nat) : Except Fault Nat :=
  match value? (Char.ofNat b.toNat) with
  | some v => .ok v
  | none => .error (.badDigit b position)

/-- The bytes of digit pairs from `position` on. -/
def pairs (position : Nat) : List UInt8 → Except Fault (List UInt8)
  | hi :: lo :: rest => do
    let h ← digitAt hi position
    let l ← digitAt lo (position + 1)
    let bs ← pairs (position + 2) rest
    return UInt8.ofNat (h * 16 + l) :: bs
  | _ => .ok []

/-- The bytes of a hexadecimal image. -/
def decode (digits : List UInt8) : Except Fault (List UInt8) :=
  if digits.length % 2 = 0 then pairs 0 digits else .error .oddLength

end SunSpec.Hex
