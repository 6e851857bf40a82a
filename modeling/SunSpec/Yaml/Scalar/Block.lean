import SunSpec.Yaml.Characters

/-!
# Block scalars

A block scalar is a header and the lines below it that are indented far enough. A literal keeps its
line breaks; a folded scalar joins lines that are not indented further. The header may give the
indentation, and says what becomes of the line breaks at the end.
-/

namespace SunSpec.Yaml.BlockScalar

/-- What becomes of the line breaks at the end. -/
inductive Chomping where
  /-- One is kept. -/
  | clip
  /-- None is kept. -/
  | strip
  /-- All are kept. -/
  | keep
deriving DecidableEq, Repr

/-- What stands behind the indicator. -/
structure Header where
  chomping : Chomping
  /-- Indentation beyond that of the parent. -/
  increment : Option Nat
deriving DecidableEq, Repr

/-- The chomping that a character asks for. -/
def chomping? : Char → Option Chomping
  | '+' => some .keep
  | '-' => some .strip
  | _ => none

/-- The indentation that a header asks for. -/
def increment (pos : Position) (chomping : Chomping) : List Char → Except Fault (Scanned Header)
  | '0' :: _ => .error .badBlockHeader
  | c :: rest =>
    if c.isDigit then .ok ⟨⟨chomping, some (c.toNat - 48)⟩, pos.next, rest⟩
    else .ok ⟨⟨chomping, none⟩, pos, c :: rest⟩
  | [] => .ok ⟨⟨chomping, none⟩, pos, []⟩

/-- The header: chomping and indentation in either order. -/
def indicators (pos : Position) (text : List Char) : Except Fault (Scanned Header) :=
  match text.head?.bind chomping? with
  | some chomping => increment pos.next chomping text.tail
  | none =>
    (increment pos .clip text).map fun h =>
      match h.value.increment, h.rest.head?.bind chomping? with
      | some _, some chomping => ⟨{ h.value with chomping }, h.pos.next, h.rest.tail⟩
      | _, _ => h

/-- The header and the rest of its line. -/
def header (pos : Position) (text : List Char) : Except Fault (Scanned Header) := do
  let h ← indicators pos text
  let (pos, rest) := skipToLineEnd h.pos h.rest
  if !lineEnds rest then throw .badBlockHeader
  let (pos, rest) := skipBreak pos rest
  return ⟨h.value, pos, rest⟩

/-- How far the lines have been read. -/
structure Lines where
  /-- The text so far, the latest character first. -/
  text : List Char
  /-- The indentation, once it is known. -/
  indent : Option Nat
  /-- The furthest column that an empty line reached. -/
  reach : Nat
  /-- Inside a line, behind its indentation. -/
  inLine : Bool
  /-- The line before began with a gap. -/
  indented : Bool
  /-- The break of the line before. -/
  lineBreak : Option Char
  /-- The breaks of the empty lines behind it, the latest first. -/
  emptyLines : List Char
deriving Repr

namespace Lines

/-- Nothing was read. -/
def start (indent : Option Nat) : Lines := ⟨[], indent, 0, false, false, none, []⟩

/-- Only spaces in front of this column belong to the indentation. -/
def inMargin (l : Lines) (column : Nat) : Bool :=
  match l.indent with
  | none => true
  | some n => column < n

/-- The indentation; if the header gave none, it is that of the first line with text, and at least
one more than that of the parent. -/
def settled (l : Lines) (least : Nat) : Nat := l.indent.getD (max l.reach least)

/-- A line with text begins. -/
def beginLine (l : Lines) (folded : Bool) (indent : Nat) (c : Char) : Lines :=
  let joins := folded && l.lineBreak == some '\n' && !l.indented && !isGap c
  let gap := if !joins then l.lineBreak.toList else if l.emptyLines.isEmpty then [' '] else []
  { text := c :: (l.emptyLines ++ (gap ++ l.text)), indent := some indent, reach := 0,
    inLine := true, indented := isGap c, lineBreak := none, emptyLines := [] }

/-- The line is broken. -/
def endLine (l : Lines) (c : Char) : Lines :=
  { l with inLine := false, reach := 0, lineBreak := some (breakText c) }

/-- An empty line is broken. -/
def emptyLine (l : Lines) (c : Char) : Lines :=
  { l with emptyLines := breakText c :: l.emptyLines }

/-- The text, with the line breaks at its end. -/
def result (l : Lines) (chomping : Chomping) : String :=
  let tail := match chomping with
    | .strip => []
    | .clip => l.lineBreak.toList
    | .keep => l.emptyLines ++ l.lineBreak.toList
  String.ofList (tail ++ l.text).reverse

end Lines

/-- Read lines; `least` is the least indentation that is found where the header gave none. -/
def scanLines (folded : Bool) (least : Nat) (l : Lines) (pos : Position) :
    List Char → Except Fault (Scanned Lines)
  | [] => .ok ⟨l, pos, []⟩
  | '\r' :: '\n' :: rest =>
    let l := if l.inLine then l.endLine '\n'
      else { l with reach := max l.reach pos.column }.emptyLine '\n'
    scanLines folded least l (pos.newLine 2) rest
  | c :: rest =>
    if l.inLine then
      if isBreak c then scanLines folded least (l.endLine c) (pos.newLine 1) rest
      else scanLines folded least { l with text := c :: l.text } pos.next rest
    else if c == ' ' && l.inMargin pos.column then scanLines folded least l pos.next rest
    else
      let l := { l with reach := max l.reach pos.column }
      if c == '\t' && l.inMargin pos.column then .error .tabInIndentation
      else if isBreak c then scanLines folded least (l.emptyLine c) (pos.newLine 1) rest
      else if pos.column == l.settled least then
        scanLines folded least (l.beginLine folded (l.settled least) c) pos.next rest
      else .ok ⟨l, pos, c :: rest⟩

/-- The scalar whose indicator was read; `parent` is the indentation of the collection around it,
if there is one. -/
def scan (folded : Bool) (parent : Option Nat) (pos : Position) (text : List Char) :
    Except Fault (Scanned String) := do
  let h ← header pos text
  let start := .start (h.value.increment.map fun n => parent.getD 0 + n)
  let least := match parent with
    | some n => n + 1
    | none => 1
  let lines ← scanLines folded least start h.pos h.rest
  return ⟨lines.value.result h.value.chomping, lines.pos, lines.rest⟩

end SunSpec.Yaml.BlockScalar
