import SunSpec.Yaml.Characters

/-!
# Folded lines

What stands between two words of a plain or quoted scalar. On one line it is kept; over one line
break it becomes a space, and over several it becomes all of them but the first. A Unicode
separator is never folded.
-/

namespace SunSpec.Yaml

/-- Gaps and line breaks, as far as they have been read. -/
structure Fold where
  /-- Gaps of the line that the text stopped on, the latest first. -/
  gaps : List Char
  /-- A line break was read, or hidden by a backslash. -/
  broken : Bool
  /-- The first line break, unless it was hidden. -/
  first : Option Char
  /-- The line breaks behind it, the latest first. -/
  others : List Char
deriving DecidableEq, Repr

namespace Fold

/-- Nothing between two characters. -/
def empty : Fold := ⟨[], false, none, []⟩

/-- Nothing but a hidden line break. -/
def hidden : Fold := ⟨[], true, none, []⟩

/-- Nothing was read. -/
def isEmpty (f : Fold) : Bool := f.gaps.isEmpty && !f.broken

/-- With another gap, which counts only on the first line. -/
def addGap (f : Fold) (c : Char) : Fold := if f.broken then f else { f with gaps := c :: f.gaps }

/-- With another line break. -/
def addBreak (f : Fold) (c : Char) : Fold :=
  if f.broken then { f with others := breakText c :: f.others }
  else { f with broken := true, first := some (breakText c) }

/-- What the scalar keeps of it, the latest first. -/
def reversed (f : Fold) : List Char :=
  if !f.broken then f.gaps
  else match f.first with
    | some '\n' => if f.others.isEmpty then [' '] else f.others
    | some c => f.others ++ [c]
    | none => f.others

end Fold

end SunSpec.Yaml
