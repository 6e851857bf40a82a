import SunSpec.Text.Hex
import SunSpec.Yaml.Folding

/-!
# Quoted scalars

Between single quotes only the quote itself is special, and is written twice. Between double quotes
a backslash escapes; in front of a line break it hides the break.
-/

namespace SunSpec.Yaml.QuotedScalar

/-- What an escape stands for: a character, or a character number in so many digits. -/
inductive Escape where
  | char (c : Char)
  | number (digits : Nat)
deriving Repr

/-- What a character behind a backslash stands for. -/
def escape? : Char → Option Escape
  | '0' => some (.char '\x00')
  | 'a' => some (.char '\x07')
  | 'b' => some (.char '\x08')
  | 't' | '\t' => some (.char '\t')
  | 'n' => some (.char '\n')
  | 'v' => some (.char '\x0b')
  | 'f' => some (.char '\x0c')
  | 'r' => some (.char '\r')
  | 'e' => some (.char '\x1b')
  | ' ' => some (.char ' ')
  | '"' => some (.char '"')
  | '/' => some (.char '/')
  | '\\' => some (.char '\\')
  | 'N' => some (.char '\u0085')
  | '_' => some (.char '\u00a0')
  | 'L' => some (.char '\u2028')
  | 'P' => some (.char '\u2029')
  | 'x' => some (.number 2)
  | 'u' => some (.number 4)
  | 'U' => some (.number 8)
  | _ => none

/-- The character of a number; surrogates have none. -/
def charOf? (n : Nat) : Option Char :=
  if n.isValidChar then some (Char.ofNat n) else none

/-- What is being read. -/
inductive State where
  /-- Characters between the quotes. -/
  | text
  /-- The digits of a character number: how many are left, and the value of those before. -/
  | number (left value : Nat)
deriving Repr

/-- The end of a scalar, at its closing quote. -/
def finish (acc : List Char) (fold : Fold) (pos : Position) (rest : List Char) : Scanned String :=
  ⟨String.ofList (fold.reversed ++ acc).reverse, pos.next, rest⟩

/-- Read on between single quotes, with the characters so far, the latest first, and the gaps and
breaks behind them. -/
def singleOnto (acc : List Char) (fold : Fold) (pos : Position) :
    List Char → Except Fault (Scanned String)
  | [] => .error .unclosedQuote
  | '\r' :: '\n' :: rest => singleOnto acc (fold.addBreak '\n') (pos.newLine 2) rest
  | '\'' :: '\'' :: rest =>
    singleOnto ('\'' :: (fold.reversed ++ acc)) .empty (pos.advance 2) rest
  | c :: rest =>
    if isBreak c then singleOnto acc (fold.addBreak c) (pos.newLine 1) rest
    else if isGap c then singleOnto acc (fold.addGap c) pos.next rest
    else if pos.column == 0 && documentAhead (c :: rest) then .error .unclosedQuote
    else if c == '\'' then .ok (finish acc fold pos rest)
    else singleOnto (c :: (fold.reversed ++ acc)) .empty pos.next rest

/-- Read on between double quotes. -/
def doubleOnto (state : State) (acc : List Char) (fold : Fold) (pos : Position) :
    List Char → Except Fault (Scanned String)
  | [] => .error .unclosedQuote
  | c :: rest =>
    match state, c, rest with
    | .number (left + 1) value, c, rest =>
      match Hex.value? c with
      | none => .error .badEscape
      | some d =>
        let value := value * 16 + d
        if left = 0 then
          match charOf? value with
          | some c => doubleOnto .text (c :: acc) .empty pos.next rest
          | none => .error .badEscape
        else doubleOnto (.number left value) acc .empty pos.next rest
    | _, '\r', '\n' :: rest => doubleOnto .text acc (fold.addBreak '\n') (pos.newLine 2) rest
    | _, '\\', '\r' :: '\n' :: rest =>
      doubleOnto .text (fold.reversed ++ acc) .hidden (pos.next.newLine 2) rest
    | _, '\\', e :: rest =>
      if isBreak e then doubleOnto .text (fold.reversed ++ acc) .hidden (pos.next.newLine 1) rest
      else match escape? e with
        | some (.char c) =>
          doubleOnto .text (c :: (fold.reversed ++ acc)) .empty (pos.advance 2) rest
        | some (.number n) =>
          doubleOnto (.number n 0) (fold.reversed ++ acc) .empty (pos.advance 2) rest
        | none => .error .badEscape
    | _, c, rest =>
      if isBreak c then doubleOnto .text acc (fold.addBreak c) (pos.newLine 1) rest
      else if isGap c then doubleOnto .text acc (fold.addGap c) pos.next rest
      else if pos.column == 0 && documentAhead (c :: rest) then .error .unclosedQuote
      else if c == '\\' then .error .badEscape
      else if c == '"' then .ok (finish acc fold pos rest)
      else doubleOnto .text (c :: (fold.reversed ++ acc)) .empty pos.next rest

/-- The scalar whose opening single quote was read. -/
def single (pos : Position) (text : List Char) : Except Fault (Scanned String) :=
  singleOnto [] .empty pos text

/-- The scalar whose opening double quote was read. -/
def double (pos : Position) (text : List Char) : Except Fault (Scanned String) :=
  doubleOnto .text [] .empty pos text

end SunSpec.Yaml.QuotedScalar
