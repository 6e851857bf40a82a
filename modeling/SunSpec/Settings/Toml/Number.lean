import SunSpec.Decimal.Nearest
import SunSpec.Decimal.Reading
import SunSpec.Settings.Setting
import SunSpec.Text.Hex
import SunSpec.Text.Reads

/-!
# Numbers and points in time

Between two digits of a number an underscore may stand. An integer fits into 64 bits with its sign;
a positive number with a point or a power must be finite. A point in time is a date, a time of day,
or both with or without an offset, and the day exists in its month.
-/

namespace SunSpec.Settings.Toml

/-! ## Digits -/

/-- A further digit of a class, an underscore possibly in front of it. -/
def nextDigit (p : Char → Bool) : Reads (Option Char) := do
  let marked ← Reads.accept "_"
  match ← Reads.peek? with
  | some c => if p c then return some (← Reads.any) else if marked then failure else return none
  | none => if marked then failure else return none

/-- At least one digit of a class. -/
def digits (p : Char → Bool) : Reads (List Char) := do
  let first ← Reads.exactly 1 p
  return first ++ (← Reads.many (nextDigit p))

/-- The digits of a whole number, without leading zeros. -/
def whole : Reads (List Char) := do
  if ← Reads.accept "0" then return ['0']
  digits Char.isDigit

/-- A sign; the answer says whether it is a minus. -/
def sign : Reads Bool := do
  if ← Reads.accept "-" then return true
  let _ ← Reads.accept "+"
  return false

/-! ## Numbers -/

/-- An integer that 64 bits hold with its sign. -/
def inRange (n : Int) : Option Setting :=
  if Int64.minValue.toInt ≤ n && n ≤ Int64.maxValue.toInt then some (.integer n) else none

/-- An integer in a base other than ten. -/
def marked (base : Nat) : Reads Setting := do
  let ds ← digits fun c => (Hex.value? c).any (· < base)
  inRange (ds.foldl (fun n c => n * base + (Hex.value? c).getD 0) 0 : Nat)

/-- The digits behind the point. -/
def fraction : Reads (List Char) := do
  if ← Reads.accept "." then digits Char.isDigit else return []

/-- A power of ten. -/
def power : Reads Int := do
  let negative ← sign
  let n := Decimal.ofDigits (← digits Char.isDigit)
  return if negative then -n else n

/-- The power of ten, if there is one. -/
def power? : Reads (Option Int) := do
  if ← Reads.accept "e" then return some (← power)
  if ← Reads.accept "E" then return some (← power)
  return none

/-- A number in base ten. -/
def decimal : Reads Setting := do
  let negative ← sign
  if ← Reads.accept "inf" then
    return .real (UInt64.ofNat (Decimal.sign64 negative + Decimal.double.infinity))
  if ← Reads.accept "nan" then
    return .real (UInt64.ofNat (Decimal.sign64 negative + Decimal.double.infinity + Nat.pow 2 51))
  let ds ← whole
  let behind ← fraction
  let power ← power?
  if behind.isEmpty && power.isNone then
    let n : Int := Decimal.ofDigits ds
    inRange (if negative then -n else n)
  else
    let n : Decimal.Scientific :=
      ⟨negative, Decimal.ofDigits (ds ++ behind), power.getD 0 - behind.length⟩
    if negative || Decimal.isFinite64 n.toBits64 then return .real n.toBits64 else failure

/-! ## Points in time -/

/-- A number of so many digits, between two bounds. -/
def field (width least most : Nat) : Reads Nat := do
  let n := Decimal.ofDigits (← Reads.exactly width Char.isDigit)
  if least ≤ n && n ≤ most then return n else failure

/-- A year has a 29th of February. -/
def isLeap (year : Nat) : Bool := year % 4 = 0 && (year % 100 ≠ 0 || year % 400 = 0)

/-- The number of days of a month. -/
def days (year month : Nat) : Nat :=
  if month = 2 then if isLeap year then 29 else 28
  else if [4, 6, 9, 11].contains month then 30
  else 31

/-- A date. -/
def date : Reads Unit := do
  let year ← field 4 0 9999
  Reads.expect "-"
  let month ← field 2 1 12
  Reads.expect "-"
  let _ ← field 2 1 (days year month)

/-- A time of day, in which a minute may have a leap second. -/
def time : Reads Unit := do
  let _ ← field 2 0 23
  Reads.expect ":"
  let _ ← field 2 0 59
  Reads.expect ":"
  let _ ← field 2 0 60
  if ← Reads.accept "." then let _ ← Reads.takeSome Char.isDigit

/-- The offset of a time zone, if one is given. -/
def offset : Reads Unit := do
  if ← Reads.accept "Z" then return
  if ← Reads.accept "z" then return
  if (← Reads.peek?).any fun c => c == '+' || c == '-' then
    let _ ← Reads.any
    let _ ← field 2 0 23
    Reads.expect ":"
    let _ ← field 2 0 59

/-- A time behind a date. -/
def timeOfDate : Reads Unit := do
  let _ ← Reads.exactly 1 fun c => c == 'T' || c == 't' || c == ' '
  time
  offset

/-- The text goes on with a date. -/
def dateAhead (text : List Char) : Bool :=
  (text.take 4).length = 4 && (text.take 4).all Char.isDigit && text[4]? == some '-'

/-- The text goes on with a time of day. -/
def timeAhead (text : List Char) : Bool :=
  (text.take 2).length = 2 && (text.take 2).all Char.isDigit && text[2]? == some ':'

/-- A time goes on behind a date: the letter or the space between them, and then the time. -/
def timeOfDateAhead (text : List Char) : Bool :=
  text.head?.any (fun c => c == 'T' || c == 't' || c == ' ') && timeAhead text.tail

/-- A number or a point in time. -/
def number : Reads Setting := do
  let text ← get
  if dateAhead text then
    date
    if timeOfDateAhead (← get) then timeOfDate
    return .moment
  else if timeAhead text then
    time
    return .moment
  else if ← Reads.accept "0x" then marked 16
  else if ← Reads.accept "0o" then marked 8
  else if ← Reads.accept "0b" then marked 2
  else decimal

end SunSpec.Settings.Toml
