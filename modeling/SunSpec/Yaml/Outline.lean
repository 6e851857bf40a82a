import SunSpec.Yaml.Characters
import SunSpec.Yaml.Literal
import SunSpec.Yaml.Token

/-!
# Writing documents

An outline is a document to be written: records, lists, numbers, truth values and texts, each
member on a line of its own. A text is written bare where it reads back as itself, as a literal if
it has line feeds, and else between quotes.
-/

namespace SunSpec.Yaml

/-- A document to be written. -/
inductive Outline where
  | number (n : Nat)
  | flag (b : Bool)
  | text (s : String)
  | list (items : List Outline)
  | record (fields : List (String × Outline))
deriving Repr

namespace Outline

/-! ## The choice of a style -/

/-- A character that can be seen, or a line feed. -/
def isShown (c : Char) : Bool :=
  let n := c.toNat
  n == 0x0A || (0x20 ≤ n && n ≤ 0x7E) || (0xA0 ≤ n && n ≤ 0xD7FF) ||
    (0xE000 ≤ n && n ≤ 0xFFFD && n != 0xFEFF) || 0x10000 ≤ n

/-- A gap, a line break or a zero, or nothing more. -/
def isApart : Option Char → Bool
  | none => true
  | some c => isGap c || isBreak c || c == '\x00'

/-- A character that would be an indicator, between what stands before it and behind it. -/
def isIndicator (before : Option Char) (c : Char) (after : Option Char) : Bool :=
  match before with
  | none =>
    "#,[]\x7b\x7d&*!|>'\"%@`".toList.contains c || ("?:-".toList.contains c && isApart after)
  | before => (c == ':' && isApart after) || (c == '#' && isApart before)

/-- Some character would be an indicator. -/
def hasIndicator (before : Option Char) : List Char → Bool
  | [] => false
  | c :: rest => isIndicator before c rest.head? || hasIndicator (some c) rest

/-- Two neighbours of which the first and the second are of a class. -/
def hasPair (p q : Char → Bool) : List Char → Bool
  | a :: b :: rest => (p a && q b) || hasPair p q (b :: rest)
  | _ => false

/-- A text begins like a document marker. -/
def beginsLikeMarker (cs : List Char) : Bool :=
  "---".toList.isPrefixOf cs || "...".toList.isPrefixOf cs

/-- What can be said of the characters of a text. -/
structure Traits where
  /-- A character that must be escaped, or a space at the end of a line. -/
  unwritable : Bool
  /-- A line that begins with a space. -/
  indented : Bool
  /-- A space at the end. -/
  trailing : Bool
  /-- It may stand bare. -/
  bare : Bool
deriving Repr

/-- The traits of a text that is not empty. -/
def traits (cs : List Char) : Traits :=
  let unwritable := cs.any (!isShown ·) || hasPair (· == ' ') isBreak cs
  let ends := [cs.head?, cs.getLast?].any fun c => c.any (· == ' ')
  { unwritable
    indented := hasPair isBreak (· == ' ') cs
    trailing := cs.getLast? == some ' '
    bare := !unwritable && !ends && !cs.any isBreak && !beginsLikeMarker cs &&
      !hasIndicator none cs }

/-- A text that would be read as something else if it stood bare. -/
def readsOtherwise (s : String) : Bool :=
  match Literal.value s with
  | .ok (.string _) => Literal.isPaddedDigits s.toList
  | _ => true

/-- The style of a text. -/
def styleOf (s : String) : ScalarStyle :=
  let t := traits s.toList
  if s.toList.contains '\n' then
    if t.unwritable || t.trailing then .doubleQuoted else .literal
  else if readsOtherwise s then .singleQuoted
  else if t.bare then .plain
  else if t.unwritable || t.indented then .doubleQuoted
  else .singleQuoted

/-! ## Scalars -/

/-- So many spaces. -/
def spaces (n : Nat) : List Char := List.replicate n ' '

/-- The lines of a literal. -/
def literalLines (indent : Nat) (atStart : Bool) : List Char → List Char
  | [] => if atStart then [] else ['\n']
  | c :: rest =>
    if isBreak c then c :: literalLines indent true rest
    else (if atStart then spaces indent else []) ++ c :: literalLines indent false rest

/-- What a literal does with the line breaks at its end. -/
def chompMark (cs : List Char) : List Char :=
  match cs.reverse with
  | [] => ['-']
  | c :: rest => if !isBreak c then ['-'] else if rest.head?.all isBreak then ['+'] else []

/-- A literal, with the end of its last line. -/
def literal (indent : Nat) (cs : List Char) : List Char :=
  let hint := if cs.head?.any fun c => c == ' ' || isBreak c then ['2'] else []
  '|' :: hint ++ chompMark cs ++ '\n' :: literalLines indent true cs

/-- The characters between single quotes; after a line break the line is indented. -/
def singleQuoted (indent : Nat) (broken : Bool) : List Char → List Char
  | [] => if broken then spaces indent else []
  | c :: rest =>
    if isBreak c then
      (if c == '\n' && !broken then ['\n'] else []) ++ c :: singleQuoted indent true rest
    else
      let margin := if broken && c != ' ' then spaces indent else []
      let mark := if c == '\'' then ['\''] else []
      margin ++ mark ++ c :: singleQuoted indent (broken && c == ' ') rest

/-- The escape of a character between double quotes. -/
def escaped (c : Char) : List Char :=
  let byNumber (mark : Char) (digits : Nat) : List Char :=
    mark :: (Hex.digits digits c.toNat).map Char.toUpper
  '\\' :: match c with
    | '\x00' => ['0']
    | '\x07' => ['a']
    | '\x08' => ['b']
    | '\t' => ['t']
    | '\n' => ['n']
    | '\x0b' => ['v']
    | '\x0c' => ['f']
    | '\r' => ['r']
    | '\x1b' => ['e']
    | '"' => ['"']
    | '\\' => ['\\']
    | '\u0085' => ['N']
    | '\u00a0' => ['_']
    | '\u2028' => ['L']
    | '\u2029' => ['P']
    | c =>
      if c.toNat ≤ 0xFF then byNumber 'x' 2
      else if c.toNat ≤ 0xFFFF then byNumber 'u' 4
      else byNumber 'U' 8

/-- A character between double quotes. -/
def doubleQuoted (c : Char) : List Char :=
  if !isShown c || isBreak c || c == '"' || c == '\\' then escaped c else [c]

/-- A text in its style and the end of its line; `indent` is that of further lines. -/
def scalar (indent : Nat) (s : String) : List Char :=
  match styleOf s with
  | .literal | .folded => literal indent s.toList
  | .plain => s.toList ++ ['\n']
  | .singleQuoted => '\'' :: singleQuoted indent false s.toList ++ ['\'', '\n']
  | .doubleQuoted => '"' :: s.toList.flatMap doubleQuoted ++ ['"', '\n']

/-! ## Documents -/

mutual

/-- What stands behind a key of a record of this indentation. -/
def afterKey (indent : Nat) : Outline → List Char
  | .list [] => " []\n".toList
  | .list items => '\n' :: spaces indent ++ itemLines indent items
  | .record [] => " \x7b\x7d\n".toList
  | .record fields => '\n' :: spaces (indent + 2) ++ fieldLines (indent + 2) fields
  | .number n => ' ' :: (toString n).toList ++ ['\n']
  | .flag b => ' ' :: (toString b).toList ++ ['\n']
  | .text s => ' ' :: scalar (indent + 2) s

/-- An outline whose members have this indentation; the first line is indented already. -/
def member (indent : Nat) : Outline → List Char
  | .list [] => "[]\n".toList
  | .list items => itemLines indent items
  | .record [] => "\x7b\x7d\n".toList
  | .record fields => fieldLines indent fields
  | .number n => (toString n).toList ++ ['\n']
  | .flag b => (toString b).toList ++ ['\n']
  | .text s => scalar indent s

/-- The items of a list; the first line is indented already. -/
def itemLines (indent : Nat) : List Outline → List Char
  | [] => []
  | [item] => '-' :: ' ' :: member (indent + 2) item
  | item :: rest =>
    '-' :: ' ' :: member (indent + 2) item ++ spaces indent ++ itemLines indent rest

/-- The fields of a record; the first line is indented already. -/
def fieldLines (indent : Nat) : List (String × Outline) → List Char
  | [] => []
  | [field] => fieldLine indent field
  | field :: rest => fieldLine indent field ++ spaces indent ++ fieldLines indent rest

/-- A field of a record. -/
def fieldLine (indent : Nat) : String × Outline → List Char
  | (key, value) => key.toList ++ ':' :: afterKey indent value

end

/-- The text of a document. -/
def print (o : Outline) : String := String.ofList (member 0 o)

end Outline

end SunSpec.Yaml
