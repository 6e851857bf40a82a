import SunSpec.Yaml.Properties
import SunSpec.Yaml.Scalar.Block
import SunSpec.Yaml.Scalar.Plain
import SunSpec.Yaml.Scalar.Quoted

/-!
# The tokens of a text

`Token.ofText` reads a text from front to back, one token after the other, with the indentations of
the open block collections, and, for each level of brackets, the token that would become a key if a
colon followed. Such a token must stand on the line of the colon and at most 1024 characters before
it. The token for the key, and the one for the mapping that it may start, are then put in front of
it, where they would have stood.

Every step reads at least one character, so the steps are counted by the length of the text.
-/

namespace SunSpec.Yaml

/-- A token that becomes a key if a colon follows. -/
structure KeyCandidate where
  /-- A line of a block mapping begins here, so that a colon must follow. -/
  required : Bool
  /-- Number of tokens in front of it. -/
  tokens : Nat
  pos : Position
deriving Repr

namespace KeyCandidate

/-- How far a colon may be away. -/
def reach : Nat := 1024

/-- A colon at this position comes too late. -/
def isStale (k : KeyCandidate) (pos : Position) : Bool :=
  k.pos.line < pos.line || k.pos.index + reach < pos.index

end KeyCandidate

/-- The state between two tokens. -/
structure Lexer where
  pos : Position
  rest : List Char
  tokens : Array Token
  /-- Columns of the open block collections, the innermost first. -/
  indents : List Nat
  /-- The candidate at this level of brackets. -/
  candidate : Option KeyCandidate
  /-- The candidates at the levels around it, the innermost first. -/
  outer : List (Option KeyCandidate)
  /-- A key may begin here. -/
  keyAllowed : Bool

namespace Lexer

/-- The state in front of a text. -/
def start (text : List Char) : Lexer :=
  let (pos, rest) := match text with
    | c :: rest => if c == byteOrderMark then (Position.start.next, rest) else (.start, c :: rest)
    | [] => (.start, [])
  ⟨pos, rest, #[], [], none, [], true⟩

/-- Inside brackets. -/
def inFlow (l : Lexer) : Bool := !l.outer.isEmpty

/-- With another token. -/
def push (l : Lexer) (t : Token) : Lexer := { l with tokens := l.tokens.push t }

/-- With another token, that takes this many characters. -/
def take (l : Lexer) (t : Token) (n : Nat) : Lexer :=
  { l with tokens := l.tokens.push t, pos := l.pos.advance n, rest := l.rest.drop n }

/-- With the token that was read. -/
def read (l : Lexer) (s : Scanned Token) : Lexer :=
  { l with tokens := l.tokens.push s.value, pos := s.pos, rest := s.rest }

/-! ## Indentation -/

/-- A column is further in than the innermost block collection. -/
def isDeeper (l : Lexer) (column : Nat) : Bool := l.indents.head?.all (· < column)

/-- A block collection begins at a column, unless it is open already; its token goes in front of
the token of this number. -/
def openBlock (l : Lexer) (column number : Nat) (t : Token) : Lexer :=
  if l.inFlow || !l.isDeeper column then l
  else { l with indents := column :: l.indents, tokens := l.tokens.insertIdxIfInBounds number t }

/-- The block collections that are further in than a column end. -/
def closeBlocks (l : Lexer) (column : Nat) : Lexer :=
  if l.inFlow then l
  else
    let inner := l.indents.takeWhile (column < ·)
    { l with
      indents := l.indents.drop inner.length
      tokens := l.tokens ++ Array.replicate inner.length .blockEnd }

/-- All block collections end. -/
def closeAllBlocks (l : Lexer) : Lexer :=
  if l.inFlow then l
  else { l with indents := [], tokens := l.tokens ++ Array.replicate l.indents.length .blockEnd }

/-! ## Keys -/

/-- Nothing waits for a colon any more. -/
def dropCandidate (l : Lexer) : Except Fault Lexer :=
  if l.candidate.any (·.required) then .error .keyWithoutColon
  else .ok { l with candidate := none }

/-- What comes next may turn out to be a key. -/
def noteCandidate (l : Lexer) : Except Fault Lexer :=
  if l.keyAllowed then
    l.dropCandidate.map fun l =>
      let required := !l.inFlow && l.indents.head? == some l.pos.column
      { l with candidate := some ⟨required, l.tokens.size, l.pos⟩ }
  else .ok l

/-- Forget the candidates that a colon cannot reach any more. -/
def dropStale (l : Lexer) : Except Fault Lexer :=
  let stale (k : KeyCandidate) : Bool := k.isStale l.pos
  let fresh (c : Option KeyCandidate) : Option KeyCandidate := c.filter (!stale ·)
  if (l.candidate :: l.outer).any fun c => c.any fun k => stale k && k.required then
    .error .keyWithoutColon
  else .ok { l with candidate := fresh l.candidate, outer := l.outer.map fresh }

/-! ## Between tokens -/

/-- Skip gaps, comments and line breaks. A tab counts as a gap only where no key may begin; a new
line allows a key. -/
def skipOnto (inFlow : Bool) (inComment keyAllowed : Bool) (pos : Position) :
    List Char → Scanned Bool
  | [] => ⟨keyAllowed, pos, []⟩
  | '\r' :: '\n' :: rest => skipOnto inFlow false (keyAllowed || !inFlow) (pos.newLine 2) rest
  | c :: rest =>
    if isBreak c then skipOnto inFlow false (keyAllowed || !inFlow) (pos.newLine 1) rest
    else if inComment || c == ' ' || (c == '\t' && (inFlow || !keyAllowed)) then
      skipOnto inFlow inComment keyAllowed pos.next rest
    else if c == '#' then skipOnto inFlow true keyAllowed pos.next rest
    else ⟨keyAllowed, pos, c :: rest⟩

/-- The state in front of the next token. -/
def skip (l : Lexer) : Lexer :=
  let s := skipOnto l.inFlow false l.keyAllowed l.pos l.rest
  { l with keyAllowed := s.value, pos := s.pos, rest := s.rest }

/-! ## Tokens -/

/-- A marker of the start or the end of a document. -/
def documentMark (l : Lexer) (t : Token) : Except Fault Lexer :=
  l.closeAllBlocks.dropCandidate.map fun l => { l with keyAllowed := false }.take t 3

/-- A directive. -/
def directive (l : Lexer) : Except Fault Lexer := do
  let l ← l.closeAllBlocks.dropCandidate
  return { l with keyAllowed := false }.read (← Properties.directive l.pos.next l.rest.tail)

/-- A collection in brackets begins. -/
def openFlow (l : Lexer) (t : Token) : Except Fault Lexer :=
  l.noteCandidate.map fun l =>
    { l with candidate := none, outer := l.candidate :: l.outer, keyAllowed := true }.take t 1

/-- A collection in brackets ends. -/
def closeFlow (l : Lexer) (t : Token) : Except Fault Lexer :=
  l.dropCandidate.map fun l =>
    { l with
      candidate := l.outer.headD none
      outer := l.outer.tail
      keyAllowed := false }.take t 1

/-- A comma between entries. -/
def flowEntry (l : Lexer) : Except Fault Lexer :=
  l.dropCandidate.map fun l => { l with keyAllowed := true }.take .flowEntry 1

/-- The hyphen of an entry. -/
def blockEntry (l : Lexer) : Except Fault Lexer := do
  if !l.inFlow && !l.keyAllowed then throw (.misplaced '-')
  let l ← (l.openBlock l.pos.column l.tokens.size .blockSequenceStart).dropCandidate
  return { l with keyAllowed := true }.take .blockEntry 1

/-- The question mark of a key. -/
def keyMark (l : Lexer) : Except Fault Lexer := do
  if !l.inFlow && !l.keyAllowed then throw (.misplaced '?')
  let l ← (l.openBlock l.pos.column l.tokens.size .blockMappingStart).dropCandidate
  return { l with keyAllowed := !l.inFlow }.take .key 1

/-- The colon of a value. A candidate becomes a key. -/
def valueMark (l : Lexer) : Except Fault Lexer :=
  match l.candidate with
  | some k =>
    let l := { l with tokens := l.tokens.insertIdxIfInBounds k.tokens .key }
    let l := l.openBlock k.pos.column k.tokens .blockMappingStart
    .ok ({ l with candidate := none, keyAllowed := false }.take .value 1)
  | none =>
    if !l.inFlow && !l.keyAllowed then .error (.misplaced ':')
    else
      let l := l.openBlock l.pos.column l.tokens.size .blockMappingStart
      .ok ({ l with keyAllowed := !l.inFlow }.take .value 1)

/-- A token that may be a key, or that stands in front of a node that may be one. -/
def property (l : Lexer) (scan : Position → List Char → Except Fault (Scanned Token)) :
    Except Fault Lexer := do
  let l ← l.noteCandidate
  return { l with keyAllowed := false }.read (← scan l.pos.next l.rest.tail)

/-- A name, as a token. -/
def named (t : String → Token) (pos : Position) (text : List Char) :
    Except Fault (Scanned Token) :=
  (Properties.name pos text).map fun n => { n with value := t n.value }

/-- A quoted scalar. -/
def quoted (l : Lexer) (style : ScalarStyle)
    (scan : Position → List Char → Except Fault (Scanned String)) : Except Fault Lexer :=
  l.property fun pos text => (scan pos text).map fun s => { s with value := .scalar style s.value }

/-- A block scalar. -/
def blockScalar (l : Lexer) (style : ScalarStyle) : Except Fault Lexer := do
  let l ← l.dropCandidate
  let s ← BlockScalar.scan (style == .folded) l.indents.head? l.pos.next l.rest.tail
  return { l with keyAllowed := true }.read { s with value := .scalar style s.value }

/-- A plain scalar; behind a line break a key may begin. -/
def plain (l : Lexer) : Except Fault Lexer := do
  let l ← l.noteCandidate
  let indent := match l.indents.head? with
    | some n => n + 1
    | none => 0
  let s ← Plain.scan ⟨l.inFlow, indent⟩ l.pos l.rest
  let l := { l with keyAllowed := s.value.broken }
  return l.read { s with value := .scalar .plain s.value.text }

/-- A plain scalar may begin with a character, whatever follows. -/
def beginsPlain (c : Char) : Bool :=
  !(isGap c || isBreak c || "-?:,[]\x7b\x7d#&*!|>'\"%@`".toList.contains c)

/-- A plain scalar may begin with one of three indicators, if no gap follows. -/
def beginsPlainBefore (l : Lexer) (c : Char) (rest : List Char) : Bool :=
  (c == '-' && !rest.head?.any isGap) ||
    (!l.inFlow && (c == '?' || c == ':') && !gapAhead rest)

/-- The next token, in front of a text that does not end. -/
def token (l : Lexer) (c : Char) (rest : List Char) : Except Fault Lexer :=
  let indicator := l.inFlow || gapAhead rest
  if l.pos.column == 0 && c == '%' then l.directive
  else if l.pos.column == 0 && markerAhead '-' (c :: rest) then l.documentMark .documentStart
  else if l.pos.column == 0 && markerAhead '.' (c :: rest) then l.documentMark .documentEnd
  else match c with
    | '[' => l.openFlow .flowSequenceStart
    | '\x7b' => l.openFlow .flowMappingStart
    | ']' => l.closeFlow .flowSequenceEnd
    | '\x7d' => l.closeFlow .flowMappingEnd
    | ',' => l.flowEntry
    | '*' => l.property (named .alias)
    | '&' => l.property (named .anchor)
    | '!' => l.property (Properties.tag l.inFlow)
    | '\'' => l.quoted .singleQuoted QuotedScalar.single
    | '"' => l.quoted .doubleQuoted QuotedScalar.double
    | c =>
      if c == '-' && gapAhead rest then l.blockEntry
      else if c == '?' && indicator then l.keyMark
      else if c == ':' && indicator then l.valueMark
      else if c == '|' && !l.inFlow then l.blockScalar .literal
      else if c == '>' && !l.inFlow then l.blockScalar .folded
      else if beginsPlain c || l.beginsPlainBefore c rest then l.plain
      else .error (.noToken c)

/-- The end of the text. -/
def finish (l : Lexer) : Except Fault (Array Token) :=
  l.closeAllBlocks.dropCandidate.map Lexer.tokens

/-- The tokens from here on, in at most this many steps. -/
def run : (steps : Nat) → Lexer → Except Fault (Array Token)
  | 0, l => l.finish
  | steps + 1, l => do
    let l ← l.skip.dropStale
    let l := l.closeBlocks l.pos.column
    match l.rest with
    | [] => l.finish
    | c :: rest => run steps (← l.token c rest)

end Lexer

/-- The tokens of a text. -/
def Token.ofText (text : String) : Except Fault (List Token) :=
  let cs := text.toList
  match cs.find? (!isReadable ·) with
  | some c => .error (.unreadable c)
  | none => ((Lexer.start cs).run (cs.length + 1)).map Array.toList

end SunSpec.Yaml
