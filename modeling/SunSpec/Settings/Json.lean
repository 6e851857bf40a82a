import SunSpec.Decimal.Nearest
import SunSpec.Decimal.Reading
import SunSpec.Settings.Setting
import SunSpec.Text.Hex
import SunSpec.Text.Reads

/-!
# Settings in JSON

One object, with nothing behind it but white space. Numbers are integers as far as 64 bits hold
them, a zero with a minus sign apart; of a name that stands twice the last one counts.
-/

namespace SunSpec.Settings.Json

/-- White space. -/
def isSpace (c : Char) : Bool := c == ' ' || c == '\t' || c == '\n' || c == '\r'

/-- Pass over white space. -/
def space : Reads Unit := Reads.skip isSpace

/-! ## Strings -/

/-- The character that a letter behind a backslash stands for. -/
def escaped? : Char → Option Char
  | '"' => some '"'
  | '\\' => some '\\'
  | '/' => some '/'
  | 'b' => some '\x08'
  | 'f' => some '\x0c'
  | 'n' => some '\n'
  | 'r' => some '\r'
  | 't' => some '\t'
  | _ => none

/-- A number of four hexadecimal digits. -/
def unit : Reads Nat := do
  let ds ← (← Reads.exactly 4 fun _ => true).mapM fun c => (Hex.value? c : Option Nat)
  return ds.foldl (fun n d => n * 16 + d) 0

/-- A character by number. One beyond four digits is written as a pair of halves. -/
def byNumber : Reads Char := do
  let first ← unit
  if first.isValidChar then return Char.ofNat first
  if 0xDC00 ≤ first then failure
  Reads.expect "\\u"
  let second ← unit
  if second < 0xDC00 || 0xDFFF < second then failure
  return Char.ofNat (0x10000 + (first - 0xD800) * 0x400 + (second - 0xDC00))

/-- The next character of a string, up to the closing quote. -/
def character : Reads (Option Char) := do
  match ← Reads.any with
  | '"' => return none
  | '\\' =>
    match ← Reads.any with
    | 'u' => return some (← byNumber)
    | c => return some (← (escaped? c : Option Char))
  | c => if c < ' ' then failure else return some c

/-- A string whose opening quote was read. -/
def string : Reads String := do return String.ofList (← Reads.many character)

/-! ## Numbers -/

/-- A whole number, without leading zeros. -/
def whole : Reads (List Char) := do
  if ← Reads.accept "0" then return ['0']
  Reads.takeSome Char.isDigit

/-- The digits behind the point. -/
def fraction : Reads (List Char) := do
  if ← Reads.accept "." then Reads.takeSome Char.isDigit else return []

/-- A power of ten. -/
def power : Reads Int := do
  let negative ← Reads.accept "-"
  if !negative then let _ ← Reads.accept "+"
  let n := Decimal.ofDigits (← Reads.takeSome Char.isDigit)
  return if negative then -n else n

/-- The power of ten, if there is one. -/
def power? : Reads (Option Int) := do
  if ← Reads.accept "e" then return some (← power)
  if ← Reads.accept "E" then return some (← power)
  return none

/-- A number that is not written as an integer or does not fit into one; it must be finite. -/
def real (n : Decimal.Scientific) : Option Setting :=
  let bits := n.toBits64
  if Decimal.isFinite64 bits then some (.real bits) else none

/-- A number. -/
def number : Reads Setting := do
  let negative ← Reads.accept "-"
  let ds ← whole
  let behind ← fraction
  let power ← power?
  let n := Decimal.ofDigits ds
  if behind.isEmpty && power.isNone then
    if negative && 0 < n && Int64.minValue.toInt ≤ -n then return .integer (-n)
    if !negative && n < UInt64.size then return .integer n
  real ⟨negative, Decimal.ofDigits (ds ++ behind), power.getD 0 - behind.length⟩

/-! ## Values -/

/-- A simple value. -/
def simple : Reads Setting := do
  if ← Reads.accept "true" then return .flag true
  if ← Reads.accept "false" then return .flag false
  if ← Reads.accept "null" then return .nothing
  if ← Reads.accept "\"" then return .text (← string)
  number

/-- A comma in front of an entry, or the end of the entries. -/
def next {α : Type} (close : String) (entry : Reads α) : Reads (Option α) := do
  space
  if ← Reads.accept close then return none
  Reads.expect ","
  space
  return some (← entry)

/-- The entries up to a closing bracket, with commas between them. -/
def entries {α : Type} (close : String) (entry : Reads α) : Reads (List α) := do
  space
  if ← Reads.accept close then return []
  let first ← entry
  return first :: (← Reads.many (next close entry))

/-- An entry of an object. -/
def field (value : Reads Setting) : Reads (String × Setting) := do
  Reads.expect "\""
  let name ← string
  space
  Reads.expect ":"
  space
  return (name, ← value)

/-- A value with at most so many collections inside each other. -/
def value : (depth : Nat) → Reads Setting
  | 0 => simple
  | depth + 1 => do
    if ← Reads.accept "[" then return .list (← entries "]" (value depth))
    if ← Reads.accept "\x7b" then
      return .table (Layer.ofList (← entries "\x7d" (field (value depth))))
    simple

/-- The largest number of collections inside each other. -/
def maxDepth : Nat := 127

/-- The layer of a text. -/
def layer? (text : String) : Option Layer :=
  let document : Reads Layer := do
    space
    Reads.expect "\x7b"
    let fields ← entries "\x7d" (field (value (maxDepth - 1)))
    space
    return Layer.ofList fields
  document.whole text.toList

end SunSpec.Settings.Json
