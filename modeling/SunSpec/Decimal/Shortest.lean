import SunSpec.Decimal.Binary

/-!
# Shortest decimal text

The fewest digits that read back as the same 64-bit word. The reals that round to a word form an
interval, its ends included when the mantissa is even. For 1, 2, … 17 digits the two neighbours of
the value on that decimal grid are tried; the first grid with a neighbour inside the interval
wins, and of two neighbours the nearer.
-/

namespace SunSpec.Decimal

/-- A positive decimal number: its digits as a natural number, and the power of ten of the last
digit. -/
structure Digits where
  digits : Nat
  exponent : Int
deriving DecidableEq, Repr

namespace Shortest

/-- Which of `a * 10 ^ p` and `b * 2 ^ q` is less. -/
def compareScaled (a : Nat) (p : Int) (b : Nat) (q : Int) : Ordering :=
  compare (a * Nat.pow 10 p.toNat * Nat.pow 2 (-q).toNat)
    (b * Nat.pow 2 q.toNat * Nat.pow 10 (-p).toNat)

/-- The greatest natural number `n` with `n * 10 ^ p ≤ b * 2 ^ q`. -/
def floorOn (p : Int) (b : Nat) (q : Int) : Nat :=
  (b * Nat.pow 2 q.toNat * Nat.pow 10 (-p).toNat) /
    (Nat.pow 10 p.toNat * Nat.pow 2 (-q).toNat)

/-- The least power of ten above `b * 2 ^ q`, for words of 64 bits. -/
def magnitude (b : Nat) (q : Int) : Int :=
  (((List.range 660).map fun (i : Nat) => (i : Int) - 330).find? fun p =>
    compareScaled 1 p b q == .gt).getD 330

/-- The neighbour on the grid of step `10 ^ p` that reads back as `m * 2 ^ e`, the nearer of two.
Everything is measured in quarters of the last place, so the interval has whole ends. -/
def onGrid? (m : Nat) (e : Int) (p : Int) : Option Nat :=
  let q := e - 2
  let value := 4 * m
  let low := if m = Nat.pow 2 52 then value - 1 else value - 2
  let high := value + 2
  let inside (n : Nat) : Bool :=
    match compareScaled n p low q, compareScaled n p high q with
    | .gt, .lt => true
    | .eq, _ | _, .eq => m % 2 == 0
    | _, _ => false
  let below := floorOn p value q
  let above := below + 1
  match inside below && below != 0, inside above with
  | true, false => some below
  | false, true => some above
  | true, true =>
    if compareScaled (below + above) p (2 * value) q == .gt then some below else some above
  | false, false => none

/-- The shortest digits of `m * 2 ^ e`. -/
def digits (m : Nat) (e : Int) : Digits :=
  let k := magnitude m e
  let hit := (List.range 17).findSome? fun i =>
    let p := k - (i + 1 : Nat)
    (onGrid? m e p).map fun n => (⟨n, p⟩ : Digits)
  hit.getD ⟨floorOn (k - 17) m e, k - 17⟩

end Shortest

/-- Where a decimal number is written out in full and where with an exponent. -/
structure Layout where
  /-- The most digits before the point. -/
  greatest : Int
  /-- The most zeros between the point and the first digit. -/
  zeros : Int
deriving DecidableEq, Repr

/-- A positive decimal number in a layout; whole numbers keep one zero after the point. -/
def Digits.text (l : Layout) (d : Digits) : String :=
  let ds := (toString d.digits).toList
  let point : Int := ds.length + d.exponent
  let zeros (n : Int) : List Char := List.replicate n.toNat '0'
  if 0 ≤ d.exponent ∧ point ≤ l.greatest then
    String.ofList (ds ++ zeros d.exponent ++ ['.', '0'])
  else if 0 < point ∧ point ≤ l.greatest then
    String.ofList (ds.take point.toNat ++ '.' :: ds.drop point.toNat)
  else if -l.zeros ≤ point ∧ point ≤ 0 then
    String.ofList ('0' :: '.' :: zeros (-point) ++ ds)
  else
    let body := match ds with
      | [] => []
      | [c] => [c]
      | c :: rest => c :: '.' :: rest
    String.ofList body ++ "e" ++ toString (point - 1)

/-- A number that `digits` has ended in zeros is the same with those zeros in the exponent. -/
def Digits.trim (d : Digits) : Digits :=
  let ds := (toString d.digits).toList.reverse
  let n := (ds.takeWhile (· == '0')).length
  if d.digits = 0 then d else ⟨d.digits / Nat.pow 10 n, d.exponent + n⟩

end SunSpec.Decimal
