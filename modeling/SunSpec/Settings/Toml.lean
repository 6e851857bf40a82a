import SunSpec.Settings.Toml.Number
import SunSpec.Settings.Toml.Text
import SunSpec.Settings.Toml.Tree

/-!
# Settings in TOML

Entries of the document itself, then tables, each with a header and its entries. An array may go
over several lines and end in a comma; an inline table may not.
-/

namespace SunSpec.Settings.Toml

/-! ## Values -/

/-- A value of one word. -/
def simple : Reads Setting := do
  match ← Reads.peek? with
  | some '"' | some '\'' => return .text (← string)
  | some 't' => Reads.expect "true"; return .flag true
  | some 'f' => Reads.expect "false"; return .flag false
  | _ => number

/-- An item of an array and the comma behind it, or the end of the array. -/
def item {α : Type} (value : Reads α) : Reads (Option α) := do
  blanksAndComments
  if (← Reads.peek?) == some ']' then return none
  let v ← value
  blanksAndComments
  if !(← Reads.accept ",") && (← Reads.peek?) != some ']' then failure
  return some v

/-- An array whose opening bracket was read. -/
def array {α : Type} (value : Reads α) : Reads (List α) := do
  let items ← Reads.many (item value)
  Reads.expect "]"
  return items

/-- A path of keys and its value. -/
def entry (value : Reads Setting) : Reads (List String × Setting) := do
  let keys ← path
  gaps
  Reads.expect "="
  gaps
  return (keys, ← value)

/-- A further entry of an inline table, or its end. -/
def nextEntry (value : Reads Setting) : Reads (Option (List String × Setting)) := do
  gaps
  if ← Reads.accept "\x7d" then return none
  Reads.expect ","
  return some (← entry value)

/-- An inline table whose opening brace was read. -/
def inlineTable (value : Reads Setting) : Reads Layer := do
  gaps
  if ← Reads.accept "\x7d" then return []
  let first ← entry value
  let entries := first :: (← Reads.many (nextEntry value))
  let b ← (Branch.assignAll [] entries : Option Branch)
  return b.layer

/-- A value with at most so many arrays and inline tables inside each other. -/
def value : (depth : Nat) → Reads Setting
  | 0 => simple
  | depth + 1 => do
    if ← Reads.accept "[" then return .list (← array (value depth))
    if ← Reads.accept "\x7b" then return .table (← inlineTable (value depth))
    simple

/-- The largest number of arrays and inline tables inside each other. -/
def maxDepth : Nat := 79

/-! ## Documents -/

/-- What a line begins. -/
inductive Statement where
  | blank
  | entry (keys : List String) (value : Setting)
  | table (keys : List String)
  | row (keys : List String)
deriving Repr

/-- A path of keys between brackets. -/
def header (close : String) : Reads (List String) := do
  let keys ← path
  gaps
  Reads.expect close
  return keys

/-- What the next line says. -/
def statement : Reads Statement := do
  gaps
  match ← Reads.peek? with
  | none | some '#' | some '\n' | some '\r' => return .blank
  | some '[' =>
    if ← Reads.accept "[[" then return .row (← header "]]")
    Reads.expect "["
    return .table (← header "]")
  | some _ =>
    let (keys, v) ← entry (value maxDepth)
    return .entry keys v

/-- The next line. -/
def line : Reads (Option Statement) := do
  if (← get).isEmpty then return none
  let s ← statement
  lineEnd
  return some s

/-- A table of a document: what makes it, and its entries, the latest first. -/
structure Section where
  header : Statement
  entries : List (List String × Setting)

/-- The sections of a document, the latest first, with one more line. -/
def addLine (sections : List Section) (s : Statement) : List Section :=
  match s, sections with
  | .blank, sections => sections
  | .entry keys v, last :: before => { last with entries := (keys, v) :: last.entries } :: before
  | s, sections => ⟨s, []⟩ :: sections

/-- The document with a section. -/
def addSection (b : Branch) (s : Section) : Option Branch :=
  let entries := s.entries.reverse
  match s.header with
  | .table keys => b.addTable keys entries
  | .row keys => b.addRow keys entries
  | .blank | .entry .. => b.assignAll entries

/-- The layer of a text. -/
def layer? (text : String) : Option Layer := do
  let cs := match text.toList with
    | '\ufeff' :: rest => rest
    | cs => cs
  let statements ← (Reads.many line).whole cs
  let sections := (statements.foldl addLine [⟨.blank, []⟩]).reverse
  let b ← sections.foldlM addSection []
  return b.layer

end SunSpec.Settings.Toml
