import SunSpec.Text.Hex
import SunSpec.Text.Reads

/-!
# Strings and keys

Strings stand between double quotes, where a backslash escapes, or between single quotes, where
nothing does. With three quotes on either side they may go over several lines. A key is a bare word
or a string, and dots make paths of keys.
-/

namespace SunSpec.Settings.Toml

/-! ## Characters -/

/-- A space or a tab. -/
def isGap (c : Char) : Bool := c == ' ' || c == '\t'

/-- A character that may stand in strings and comments. -/
def isText (c : Char) : Bool := c == '\t' || (' ' ≤ c && c ≠ '\x7f')

/-- Pass over gaps. -/
def gaps : Reads Unit := Reads.skip isGap

/-- Take a line break, if one is next. -/
def lineBreak : Reads Bool := do
  if ← Reads.accept "\n" then return true
  Reads.accept "\r\n"

/-- Take a comment, if one is next. -/
def comment : Reads Unit := do
  if ← Reads.accept "#" then Reads.skip isText

/-- The end of a line, or of the text. -/
def lineEnd : Reads Unit := do
  gaps
  comment
  if (← Reads.peek?).isSome && !(← lineBreak) then failure

/-- Pass over gaps or a line break, if one of them is next. -/
def blank : Reads (Option Unit) := do
  if (← Reads.peek?).any isGap then return some (← gaps)
  if ← lineBreak then return some ()
  return none

/-- Pass over gaps and line breaks. -/
def blanks : Reads Unit := do let _ ← Reads.many blank

/-- Pass over gaps, line breaks and comments. -/
def blanksAndComments : Reads Unit := do
  let _ ← Reads.many do
    if (← Reads.peek?) == some '#' then return some (← comment)
    blank

/-! ## Strings of one line -/

/-- The character that a letter behind a backslash stands for. -/
def escaped? : Char → Option Char
  | 'b' => some '\x08'
  | 't' => some '\t'
  | 'n' => some '\n'
  | 'f' => some '\x0c'
  | 'r' => some '\r'
  | '"' => some '"'
  | '\\' => some '\\'
  | _ => none

/-- A character by number, in so many hexadecimal digits. -/
def byNumber (digits : Nat) : Reads Char := do
  let ds ← (← Reads.exactly digits fun _ => true).mapM fun c => (Hex.value? c : Option Nat)
  let n := ds.foldl (fun n d => n * 16 + d) 0
  if n.isValidChar then return Char.ofNat n else failure

/-- The character of an escape whose backslash was read. -/
def escape : Reads Char := do
  match ← Reads.any with
  | 'u' => byNumber 4
  | 'U' => byNumber 8
  | c => (escaped? c : Option Char)

/-- The next character of a string in double quotes, up to the closing quote. -/
def basicCharacter : Reads (Option Char) := do
  match ← Reads.any with
  | '"' => return none
  | '\\' => return some (← escape)
  | c => if isText c then return some c else failure

/-- A string whose opening double quote was read. -/
def basic : Reads String := do return String.ofList (← Reads.many basicCharacter)

/-- A string whose opening single quote was read. -/
def literal : Reads String := do
  let cs ← Reads.takeWhile fun c => isText c && c ≠ '\''
  Reads.expect "'"
  return String.ofList cs

/-! ## Strings of several lines -/

/-- The next piece of a string of several lines, between quotes `quote`. One or two quotes alone
belong to the string, but not in front of its end. -/
def piece (quote : Char) (escapes : Reads (List Char)) : Reads (List Char) := do
  if ← lineBreak then return ['\n']
  let quotes ← Reads.takeWhile (· == quote)
  match quotes.length with
  | 0 =>
    match ← Reads.any with
    | '\\' => escapes
    | c => if isText c then return [c] else failure
  | 1 | 2 => return quotes
  | _ => failure

/-- The end of a string of several lines: its quotes, and up to two that belong to it. -/
def closing (quote : Char) : Reads (List Char) := do
  let quotes ← Reads.takeWhile (· == quote)
  if quotes.length < 3 || 5 < quotes.length then failure
  return quotes.drop 3

/-- A string of several lines whose opening quotes were read. A line break right behind them does
not count. -/
def lines (quote : Char) (escapes : Reads (List Char)) : Reads String := do
  let _ ← lineBreak
  let pieces ← Reads.many (Reads.attempt (piece quote escapes))
  return String.ofList (pieces.flatten ++ (← closing quote))

/-- A line break that does not count, nor do the gaps and breaks behind it. -/
def hiddenBreak : Reads Unit := do
  gaps
  if !(← lineBreak) then failure
  blanks

/-- What a backslash escapes in a string of several lines. -/
def escapeOrBreak : Reads (List Char) := do
  if (← Reads.attempt hiddenBreak).isSome then return []
  return [← escape]

/-- A string, in the form that its quotes say. -/
def string : Reads String := do
  if ← Reads.accept "\"\"\"" then lines '"' escapeOrBreak
  else if ← Reads.accept "'''" then lines '\'' (pure ['\\'])
  else if ← Reads.accept "\"" then basic
  else do
    Reads.expect "'"
    literal

/-! ## Keys -/

/-- A character of a bare key. -/
def isKey (c : Char) : Bool := c.isAlphanum || c == '_' || c == '-'

/-- A key. -/
def key : Reads String := do
  if ← Reads.accept "\"" then basic
  else if ← Reads.accept "'" then literal
  else return String.ofList (← Reads.takeSome isKey)

/-- A further key of a path, if a dot is next. -/
def nextKey : Reads (Option String) := do
  gaps
  if ← Reads.accept "." then
    gaps
    return some (← key)
  else return none

/-- The largest number of keys of a path. -/
def maxPath : Nat := 79

/-- A path of keys: the first, and all others. -/
def path : Reads (List String) := do
  gaps
  let first ← key
  let keys := first :: (← Reads.many nextKey)
  if maxPath < keys.length then failure
  return keys

end SunSpec.Settings.Toml
