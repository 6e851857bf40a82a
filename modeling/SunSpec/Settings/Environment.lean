import SunSpec.Decimal.Nearest
import SunSpec.Decimal.Reading
import SunSpec.Settings.Setting
import SunSpec.Settings.Toml.Text
import SunSpec.Text.Blank

/-!
# Settings from the environment

A variable whose name begins with `SUNS_`, in letters of either case, gives the setting that the
rest of its name says; dots make tables inside tables. Its value may be a truth value, a number, a
quoted text, a list in brackets or a table in braces. What is none of these is text as it stands.
-/

namespace SunSpec.Settings.Environment

/-! ## Values -/

/-- A character that counts as a space. -/
def isSpace (c : Char) : Bool :=
  c == ' ' || c == '\t' || c == '\n' || c == '\x0c' || c == '\r'

/-- Pass over spaces. -/
def spaces : Reads Unit := Reads.skip isSpace

/-- A character that does not belong to a bare word. -/
def isSeparator (c : Char) : Bool := ",\x7b\x7d[]".toList.contains c

/-- The number that a text stands for, with a plus sign or a minus sign or none. -/
def integer? (cs : List Char) : Option Int :=
  let (negative, ds) := Decimal.splitSign cs
  if ds.isEmpty || !ds.all Char.isDigit then none
  else
    let n : Int := if negative then -(Decimal.ofDigits ds) else Decimal.ofDigits ds
    if Int64.minValue.toInt ≤ n && n < UInt64.size then some n else none

/-- A bare word: a number, or else text. Only with a point is it a number that is not whole. -/
def ofWord (cs : List Char) : Setting :=
  let word := trimBlanks cs
  let real := if word.contains '.' then Decimal.Scientific.ofText? word else none
  match real, integer? word with
  | some n, _ => .real n.toBits64
  | none, some n => .integer n
  | none, none => .text (String.ofList word)

/-- A text whose opening quote was read. -/
def quoted : Reads String := Toml.basic

/-- A character between single quotes, of which the first was read. -/
def letter : Reads Char := do
  let c ← Reads.any
  Reads.expect "'"
  return c

/-- An item of a list or a table and the comma behind it, or the end. -/
def item {α : Type} (close : String) (entry : Reads α) : Reads (Option (α × Bool)) := do
  if ← Reads.accept close then return none
  let v ← entry
  return some (v, ← Reads.accept ",")

/-- The items up to a closing bracket. Only the last may lack the comma. -/
def items {α : Type} (close : String) (entry : Reads α) : Reads (List α) := do
  let vs ← Reads.many (item close entry)
  if vs.dropLast.all Prod.snd then return vs.map Prod.fst else failure

/-- A name, its equals sign and its value. -/
def field (value : Reads Setting) : Reads (String × Setting) := do
  spaces
  let name ← if ← Reads.accept "\"" then quoted else
    String.ofList <$> Reads.takeSome Toml.isKey
  spaces
  Reads.expect "="
  spaces
  let v ← value
  spaces
  return (name, v)

/-- A value that holds no other. -/
def simple : Reads Setting := do
  if ← Reads.accept "true" then return .flag true
  if ← Reads.accept "false" then return .flag false
  if ← Reads.accept "\"" then return .text (← quoted)
  if ← Reads.accept "'" then return .letter (← letter)
  return ofWord (← Reads.takeWhile (!isSeparator ·))

/-- A value with at most so many lists and tables inside each other. -/
def value : (depth : Nat) → Reads Setting
  | 0 => do
    spaces
    let v ← simple
    spaces
    return v
  | depth + 1 => do
    spaces
    let v ←
      if ← Reads.accept "\x7b" then
        pure (.table (Layer.ofList (← items "\x7d" (field (value depth)))))
      else if ← Reads.accept "[" then pure (.list (← items "]" (value depth)))
      else simple
    spaces
    return v

/-- The setting of a text. -/
def ofText (text : String) : Setting :=
  ((value text.length).whole text.toList).getD (.text text)

/-! ## Variables -/

/-- What the names of variables begin with. -/
def marker : String := "suns_"

/-- A setting under a path of names. -/
def nest (s : Setting) : List String → Setting
  | [] => s
  | name :: path => .table [(name, nest s path)]

/-- The path of the setting that a variable gives. -/
def path? (name : String) : Option (List String) :=
  let lower := name.toList.map Char.toLower
  if marker.toList.isPrefixOf lower then
    let path := (String.ofList (lower.drop marker.length)).splitOn "."
    if path.any String.isEmpty then none else some path
  else none

/-- The named setting of a variable. -/
def entry? (name text : String) : Option (String × Setting) :=
  match path? name with
  | some (first :: rest) => some (first, nest (ofText text) rest)
  | _ => none

/-- The layer of variables with their values. -/
def layer (pairs : List (String × String)) : Layer :=
  Layer.ofList (pairs.filterMap fun (name, text) => entry? name text)

end SunSpec.Settings.Environment
