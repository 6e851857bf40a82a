import SunSpec.Journal.Entry
import SunSpec.Text.Blank

/-!
# Filters of the journal

A filter is a list of directives with commas between them. A directive sets how much is heard of
the topics whose names begin in a certain way, or of all topics; the directive that says most about
an entry decides over it, and of two that say as much the later. A directive may also ask for an
enclosing span, which no entry here has, or for fields, of which an entry has its message alone.
-/

namespace SunSpec.Journal

/-- A directive of a filter. -/
structure Directive where
  /-- What the names of its topics begin with. -/
  target : Option String
  /-- It asks for an enclosing span. -/
  inSpan : Bool
  /-- The fields it asks for, and whether it asks for their values too. -/
  fields : List (String × Bool)
  /-- The rank of the last level that it lets through. -/
  rank : Nat
deriving DecidableEq, Repr

namespace Directive

/-! ## Reading -/

/-- The rank that a word or a number stands for; 0 lets nothing through. -/
def rank? (word : List Char) : Option Nat :=
  let lower := String.ofList (word.map Char.toLower)
  let digits := match word with
    | '+' :: ds => ds
    | ds => ds
  if !digits.isEmpty && digits.all Char.isDigit then
    let n := digits.foldl (fun n c => n * 10 + (c.toNat - 48)) 0
    if n ≤ 5 then some n else none
  else if lower = "off" then some 0
  else (Level.all.find? fun l => l.name = lower).map Level.rank

/-- A directive that lets everything through. -/
def everything : Directive := ⟨none, false, [], Level.trace.rank⟩

/-- What is being read, with the place where it began. -/
inductive Place where
  | start
  | word (since : Nat)
  | span (since : Nat)
  | field (since : Nat)
  | fields
  | target
  | level (since : Nat)

/-- A directive can begin with a character. A letter beyond ASCII counts like any other. -/
def canBegin (c : Char) : Bool :=
  c.isAlphanum || c == '-' || c == ':' || c == '_' || 0x80 ≤ c.toNat

/-- The part of a text between two places. -/
def slice (text : List Char) (since till : Nat) : List Char := (text.take till).drop since

/-- A field that is asked for. -/
def field (text : List Char) : String × Bool :=
  (String.ofList (text.takeWhile (· ≠ '=')), text.contains '=')

/-- One more character of a directive. Places are counted without the blanks in front, and yet
stand for places of the whole text. -/
def step (text : List Char) (now : Place × Directive) (next : Char × Nat) :
    Option (Place × Directive) :=
  let (c, i) := next
  let (place, d) := now
  match place, c with
  | .start, '[' => some (.span (i + 1), d)
  | .start, c => if canBegin c then some (.word i, d) else none
  | .word s, '=' => some (.level (i + 1), { d with target := String.ofList (slice text s i) })
  | .word s, '[' => some (.span (i + 1), { d with target := String.ofList (slice text s i) })
  | .word s, _ => some (.word s, d)
  | .span _, ']' => some (.target, { d with inSpan := true })
  | .span s, '\x7b' => some (.field (i + 1), { d with inSpan := !(slice text s i).isEmpty })
  | .span s, _ => some (.span s, d)
  | .field s, '\x7d' => some (.fields, { d with fields := d.fields ++ [field (slice text s i)] })
  | .field s, _ => some (.field s, d)
  | .fields, ']' => some (.target, d)
  | .fields, _ => none
  | .target, '=' => some (.level (i + 1), d)
  | .target, _ => none
  | .level s, _ => some (.level s, d)

/-- The end of a directive. A single word is a level, or else a target. -/
def finish (text : List Char) : Place × Directive → Option Directive
  | (.word s, d) =>
    let word := text.drop s
    match rank? word with
    | some rank => some { d with rank }
    | none => some { d with target := String.ofList word }
  | (.level s, d) =>
    let word := text.drop s
    if word.isEmpty then some d else (rank? word).map fun rank => { d with rank }
  | (.target, d) => some d
  | _ => none

/-- The directive of a text. -/
def ofText? (text : List Char) : Option Directive := do
  finish text (← (trimBlanks text).zipIdx.foldlM (step text) (.start, everything))

/-! ## Deciding -/

/-- A directive has a say about an entry. -/
def concerns (d : Directive) (e : Entry) : Bool :=
  !d.inSpan && d.fields.all (fun f => f.1 == "message" && !f.2) &&
    d.target.all fun t => e.topic.name.startsWith t

/-- How much a directive says: the length of its target, and the number of its fields. -/
def weight (d : Directive) : Nat × Nat :=
  ((d.target.map fun t => t.utf8ByteSize + 1).getD 0, d.fields.length)

/-- One directive says at least as much as another. -/
def outweighs (d other : Directive) : Bool :=
  other.weight.1 < d.weight.1 ||
    (other.weight.1 == d.weight.1 && other.weight.2 ≤ d.weight.2)

end Directive

/-- A filter. -/
structure Filter where
  directives : List Directive
deriving DecidableEq, Repr

namespace Filter

/-- The filter of a text. One without directives lets errors through. -/
def ofText? (text : String) : Option Filter := do
  let parts := (text.splitOn ",").filter (· ≠ "")
  let ds ← parts.mapM fun part => Directive.ofText? part.toList
  return ⟨if ds.isEmpty then [{ Directive.everything with rank := Level.error.rank }] else ds⟩

/-- The directive that decides over an entry. -/
def decisive? (f : Filter) (e : Entry) : Option Directive :=
  f.directives.foldl (fun best d =>
    if d.concerns e && best.all d.outweighs then some d else best) none

/-- A filter lets an entry through. -/
def admits (f : Filter) (e : Entry) : Bool :=
  (f.decisive? e).any fun d => e.level.rank ≤ d.rank

end Filter

end SunSpec.Journal
