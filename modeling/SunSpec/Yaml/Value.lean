import SunSpec.Decimal.Nearest
import SunSpec.Decimal.Shortest
import SunSpec.Text.Quoted

/-!
# Values of documents

A node as a value: what its tag and its text mean. `Value.quoted` is the form in which diagnostics
show a value.
-/

namespace SunSpec.Yaml

/-- A value of a document. -/
inductive Value where
  | null
  | bool (b : Bool)
  /-- An integer of 64 bits, with or without a sign. -/
  | int (n : Int)
  /-- A floating-point number, as bits. -/
  | float (bits : UInt64)
  | string (s : String)
  | sequence (items : List Value)
  | mapping (pairs : List (Value × Value))
  /-- A value under a tag of its own. -/
  | tagged (tag : String) (value : Value)
deriving Repr, Inhabited

namespace Value

/-! ## Views -/

/-- The value under its tags. -/
def untagged : Value → Value
  | tagged _ v => v.untagged
  | v => v

/-- The integer of a value, if 64 bits hold it with its sign. -/
def int64? (v : Value) : Option Int :=
  match v.untagged with
  | int n => if Int64.minValue.toInt ≤ n ∧ n ≤ Int64.maxValue.toInt then some n else none
  | _ => none

/-- The integer of a value, if 64 bits hold it without a sign. -/
def natural? (v : Value) : Option Nat :=
  match v.untagged with
  | int n => if 0 ≤ n ∧ n < UInt64.size then some n.toNat else none
  | _ => none

/-- The number of a value, as bits. -/
def float64? (v : Value) : Option UInt64 :=
  match v.untagged with
  | int n => some (Decimal.bits64OfInt n)
  | float bits => some bits
  | _ => none

/-- The text of a value. -/
def text? (v : Value) : Option String :=
  match v.untagged with
  | string s => some s
  | _ => none

/-! ## Equality -/

/-- Equality of numbers as keys: no number equals itself, and the two zeros are equal. -/
def sameFloat (a b : UInt64) : Bool :=
  (Decimal.isNaN64 a && Decimal.isNaN64 b) || Decimal.numEq64 a b

mutual

/-- Equality of values as keys. The order of a mapping does not count. -/
def same : Value → Value → Bool
  | null, null => true
  | bool a, bool b => a == b
  | int a, int b => a == b
  | float a, float b => sameFloat a b
  | string a, string b => a == b
  | sequence as, sequence bs => sameList as bs
  | mapping as, mapping bs => as.length == bs.length && coveredBy as bs
  | tagged s a, tagged t b => s == t && same a b
  | _, _ => false

/-- Equality of lists. -/
def sameList : List Value → List Value → Bool
  | [], [] => true
  | a :: as, b :: bs => same a b && sameList as bs
  | _, _ => false

/-- Every pair of the first list is in the second. -/
def coveredBy : List (Value × Value) → List (Value × Value) → Bool
  | [], _ => true
  | p :: ps, bs => inPairs p bs && coveredBy ps bs

/-- A pair is in a list. -/
def inPairs : Value × Value → List (Value × Value) → Bool
  | (k, v), bs => bs.any fun (k', v') => same k k' && same v v'

end

/-! ## Quoted form -/

/-- The digits of a positive number are written out up to 16 places before the point and 4 zeros
behind it. -/
def numberLayout : Decimal.Layout := ⟨16, 4⟩

/-- The text of a floating-point number. -/
def floatText (bits : UInt64) : String :=
  match Decimal.Binary.ofBits64 bits with
  | .nan => ".nan"
  | .infinite negative => if negative then "-.inf" else ".inf"
  | .finite negative m e =>
    let digits := if m = 0 then "0.0"
      else ((Decimal.Shortest.digits m e).trim).text numberLayout
    if negative then "-" ++ digits else digits

mutual

/-- The form that diagnostics show. -/
def quoted : Value → String
  | null => "Null"
  | bool b => s!"Bool({b})"
  | int n => s!"Number({n})"
  | float bits => "Number(" ++ floatText bits ++ ")"
  | string s => "String(" ++ Quoted.text s ++ ")"
  | sequence items => "Sequence [" ++ ", ".intercalate (quotedList items) ++ "]"
  | mapping pairs => "Mapping \x7b" ++ ", ".intercalate (quotedPairs pairs) ++ "\x7d"
  | tagged tag v => "TaggedValue \x7b tag: !" ++ tag ++ ", value: " ++ quoted v ++ " \x7d"

/-- The forms of several values. -/
def quotedList : List Value → List String
  | [] => []
  | v :: vs => quoted v :: quotedList vs

/-- The forms of pairs. -/
def quotedPairs : List (Value × Value) → List String
  | [] => []
  | p :: ps => quotedPair p :: quotedPairs ps

/-- The form of a pair; a key that is a simple scalar shows without its kind. -/
def quotedPair : Value × Value → String
  | (k, v) =>
    let key := match k with
      | bool b => toString b
      | int n => toString n
      | float bits => floatText bits
      | string s => Quoted.text s
      | k => quoted k
    key ++ ": " ++ quoted v

end

end Value

end SunSpec.Yaml
