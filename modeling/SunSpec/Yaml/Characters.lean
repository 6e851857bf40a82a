import SunSpec.Yaml.Fault

/-!
# Characters and positions of documents

The character classes that documents are read by, and the position of a character: its number, its
line and its column. A carriage return with a line feed behind it is one line break; all breaks but
the two Unicode separators are read as a line feed.
-/

namespace SunSpec.Yaml

/-- A character that a document may hold. -/
def isReadable (c : Char) : Bool :=
  let n := c.toNat
  c == '\t' || c == '\n' || c == '\r' || (0x20 ≤ n && n ≤ 0x7E) || n == 0x85 ||
    (0xA0 ≤ n && n ≤ 0xD7FF) || (0xE000 ≤ n && n ≤ 0xFFFD) || 0x10000 ≤ n

/-- The mark that may stand in front of a text. -/
def byteOrderMark : Char := '\ufeff'

/-- A space or a tab. -/
def isGap (c : Char) : Bool := c == ' ' || c == '\t'

/-- A character that ends a line. -/
def isBreak (c : Char) : Bool :=
  c == '\n' || c == '\r' || c == '\u0085' || c == '\u2028' || c == '\u2029'

/-- What a line break is read as. -/
def breakText (c : Char) : Char := if c == '\u2028' || c == '\u2029' then c else '\n'

/-- A character of names: a letter, a digit, a hyphen or a low line. -/
def isWord (c : Char) : Bool := c.isAlphanum || c == '-' || c == '_'

/-- The text goes on with a gap or a line break, or it ends. -/
def gapAhead : List Char → Bool
  | [] => true
  | c :: _ => isGap c || isBreak c

/-- The text ends or breaks the line here. -/
def lineEnds : List Char → Bool
  | [] => true
  | c :: _ => isBreak c

/-- The text goes on with a document marker, which only counts at the start of a line. -/
def markerAhead (mark : Char) : List Char → Bool
  | a :: b :: c :: rest => a == mark && b == mark && c == mark && gapAhead rest
  | _ => false

/-- The text goes on with the start or the end of a document. -/
def documentAhead (rest : List Char) : Bool := markerAhead '-' rest || markerAhead '.' rest

/-- The place of a character. -/
structure Position where
  index : Nat
  line : Nat
  column : Nat
deriving DecidableEq, Repr

namespace Position

/-- The first place. -/
def start : Position := ⟨0, 0, 0⟩

/-- The place behind a character. -/
def next (p : Position) : Position := ⟨p.index + 1, p.line, p.column + 1⟩

/-- The place behind several characters of one line. -/
def advance (p : Position) (n : Nat) : Position := ⟨p.index + n, p.line, p.column + n⟩

/-- The place behind a line break of so many characters. -/
def newLine (p : Position) (characters : Nat) : Position := ⟨p.index + characters, p.line + 1, 0⟩

end Position

/-- Something that was read, and the text behind it. -/
structure Scanned (α : Type) where
  value : α
  pos : Position
  rest : List Char
deriving Repr

/-- The longest run of characters of a class. -/
def takeRun (p : Char → Bool) (pos : Position) (text : List Char) : Scanned (List Char) :=
  let run := text.takeWhile p
  ⟨run, pos.advance run.length, text.dropWhile p⟩

/-- The text behind a line break, if there is one here. -/
def skipBreak (pos : Position) : List Char → Position × List Char
  | '\r' :: '\n' :: rest => (pos.newLine 2, rest)
  | c :: rest => if isBreak c then (pos.newLine 1, rest) else (pos, c :: rest)
  | [] => (pos, [])

/-- The text behind gaps and a comment, up to the end of the line or to something else. -/
def skipToLineEnd (pos : Position) (text : List Char) : Position × List Char :=
  let gaps := takeRun isGap pos text
  match gaps.rest with
  | '#' :: _ =>
    let comment := takeRun (!isBreak ·) gaps.pos gaps.rest
    (comment.pos, comment.rest)
  | rest => (gaps.pos, rest)

end SunSpec.Yaml
