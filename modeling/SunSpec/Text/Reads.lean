/-!
# Readers of text

A reader takes the front of a text off and says what it means, or refuses it. Readers are put
together in order, by choice on what comes next, and by repetition; a repetition takes at most as
many steps as there are characters.
-/

namespace SunSpec

/-- A reader: what stands at the front of a text, and the rest of it. -/
abbrev Reads := StateT (List Char) Option

namespace Reads

variable {α : Type}

/-- The next character, which stays where it is. -/
def peek? : Reads (Option Char) := fun text => some (text.head?, text)

/-- The next character. -/
def any : Reads Char
  | [] => none
  | c :: rest => some (c, rest)

/-- Take a word if it is next, and say whether it was. -/
def accept (word : String) : Reads Bool := fun text =>
  match word.toList.isPrefixOf text with
  | true => some (true, text.drop word.length)
  | false => some (false, text)

/-- Take a word, which must be next. -/
def expect (word : String) : Reads Unit := do
  if !(← accept word) then failure

/-- All characters of a class up to the first that is not. -/
def takeWhile (p : Char → Bool) : Reads (List Char) := fun text =>
  some (text.takeWhile p, text.dropWhile p)

/-- At least one character of a class, and all up to the first that is not. -/
def takeSome (p : Char → Bool) : Reads (List Char) := do
  let cs ← takeWhile p
  if cs.isEmpty then failure
  return cs

/-- Pass over the characters of a class. -/
def skip (p : Char → Bool) : Reads Unit := fun text => some ((), text.dropWhile p)

/-- Exactly so many characters of a class. -/
def exactly (n : Nat) (p : Char → Bool) : Reads (List Char) := fun text =>
  let cs := text.take n
  if cs.length = n && cs.all p then some (cs, text.drop n) else none

/-- What a text means, if all of it is read. -/
def whole (r : Reads α) (text : List Char) : Option α :=
  match r text with
  | some (a, []) => some a
  | _ => none

/-- A reader tried, which takes nothing where it refuses. -/
def attempt (r : Reads α) : Reads (Option α) := fun text =>
  match r text with
  | some (a, rest) => some (some a, rest)
  | none => some (none, text)

/-- Repeat a reader until it says to stop, in at most so many steps. -/
def upTo (item : Reads (Option α)) (acc : Array α) : (steps : Nat) → Reads (List α)
  | 0 => failure
  | steps + 1 => do
    match ← item with
    | none => return acc.toList
    | some a => upTo item (acc.push a) steps

/-- Repeat a reader that takes something each time until it says to stop. -/
def many (item : Reads (Option α)) : Reads (List α) := fun text =>
  upTo item #[] (text.length + 1) text

end Reads

end SunSpec
