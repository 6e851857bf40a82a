import SunSpec.Decimal.Reading
import SunSpec.Text.Hex
import SunSpec.Yaml.Fault
import SunSpec.Yaml.Value

/-!
# Literals

What the text of a plain scalar means. A number with a leading zero is text, and so is a number
that is written like none of the forms here.
-/

namespace SunSpec.Yaml.Literal

/-- The ways to write nothing. -/
def isNull (s : String) : Bool := ["null", "Null", "NULL", "~"].contains s

/-- The truth value of a text. -/
def bool? (s : String) : Option Bool :=
  if ["true", "True", "TRUE"].contains s then some true
  else if ["false", "False", "FALSE"].contains s then some false
  else none

/-- The number that digits of a base stand for; there must be some. -/
def digits? (base : Nat) (ds : List Char) : Option Nat :=
  let step (n : Nat) (c : Char) : Option Nat :=
    (Hex.value? c).bind fun d => if d < base then some (n * base + d) else none
  if ds.isEmpty then none else ds.foldlM step 0

/-- The number of a text with the mark of a base in front. -/
def marked? : List Char → Option Nat
  | '0' :: 'x' :: ds => digits? 16 ds
  | '0' :: 'o' :: ds => digits? 8 ds
  | '0' :: 'b' :: ds => digits? 2 ds
  | _ => none

/-- Digits with a leading zero, which are no number. -/
def isPaddedDigits (cs : List Char) : Bool :=
  match (Decimal.splitSign cs).2 with
  | '0' :: d :: ds => (d :: ds).all Char.isDigit
  | _ => false

/-- The natural number of a text. -/
def natural? (s : String) : Option Nat :=
  let cs := s.toList
  let body := match cs with
    | '+' :: rest => rest
    | _ => cs
  match marked? body with
  | some n => some n
  | none => if isPaddedDigits cs then none else digits? 10 body

/-- The negative number of a text; this includes the zero with a minus sign. -/
def negative? (s : String) : Option Int :=
  match s.toList with
  | '-' :: body =>
    match marked? body with
    | some n => some (-n)
    | none => if isPaddedDigits body then none else (digits? 10 body).map fun n => -(n : Int)
  | _ => none

/-- The integer of a text. -/
def int? (s : String) : Option Int :=
  match natural? s with
  | some n => some n
  | none => negative? s

/-- An integer that 64 bits hold, with or without a sign. -/
def isWord64 (n : Int) : Bool := Int64.minValue.toInt ≤ n && n < UInt64.size

/-- An integer that 128 bits hold, with or without a sign. -/
def isWord128 (n : Int) : Bool := -(Nat.pow 2 127 : Nat) ≤ n && n < (Nat.pow 2 128 : Nat)

/-- The floating-point number of a text, as bits. It is finite unless it is written as one of the
named ones. -/
def float? (s : String) : Option UInt64 :=
  let body := if s.startsWith "+" then String.ofList (s.toList.drop 1) else s
  if [".inf", ".Inf", ".INF"].contains body then some 0x7FF0000000000000
  else if ["-.inf", "-.Inf", "-.INF"].contains s then some 0xFFF0000000000000
  else if [".nan", ".NaN", ".NAN"].contains s then some 0x7FF8000000000000
  else (Decimal.Scientific.ofText? s.toList).bind fun n =>
    let bits := n.toBits64
    if Decimal.isFinite64 bits then some bits else none

/-- An integer as a value; one that needs more than 64 bits is refused. -/
def ofInt (n : Int) : Except Fault Value :=
  if isWord64 n then .ok (.int n) else .error (.badScalar (toString n) "a 64-bit integer")

/-- The value of a plain scalar. An integer past 128 bits is read as a floating-point number. -/
def value (s : String) : Except Fault Value :=
  if s.isEmpty || isNull s then .ok .null
  else match bool? s, (int? s).filter isWord128 with
    | some b, _ => .ok (.bool b)
    | none, some n => ofInt n
    | none, none =>
      match if isPaddedDigits s.toList then none else float? s with
      | some bits => .ok (.float bits)
      | none => .ok (.string s)

end SunSpec.Yaml.Literal
