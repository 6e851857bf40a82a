import SunSpec.Yaml.Folding

/-!
# Plain scalars

A scalar without quotes goes on to a colon with a gap behind it, to a comment, to a document
marker, to a line that is not indented far enough, and inside brackets to a comma or a bracket.
-/

namespace SunSpec.Yaml.Plain

/-- Where a plain scalar stands. -/
structure Context where
  /-- Inside brackets. -/
  inFlow : Bool
  /-- The column that continued lines must reach. -/
  indent : Nat

/-- A plain scalar, and whether the line was broken behind it. -/
structure Result where
  text : String
  broken : Bool
deriving Repr

/-- An indicator of a flow collection. -/
def isFlowIndicator (c : Char) : Bool :=
  c == ',' || c == '[' || c == ']' || c == '\x7b' || c == '\x7d'

/-- The scalar ends in front of this character, as far as the character itself decides. -/
def endsAt (inFlow : Bool) (c : Char) (rest : List Char) : Bool :=
  (c == ':' && gapAhead rest) || (inFlow && isFlowIndicator c)

/-- A colon that touches an indicator inside brackets. -/
def touches (inFlow : Bool) (c : Char) : List Char → Bool
  | d :: _ => inFlow && c == ':' && (isFlowIndicator d || d == '?')
  | [] => false

/-- The scalar ends in front of the word that begins here. -/
def endsBefore (ctx : Context) (pos : Position) (c : Char) (rest : List Char) : Bool :=
  (!ctx.inFlow && pos.column < ctx.indent) || (pos.column == 0 && documentAhead (c :: rest)) ||
    c == '#'

/-- The end of a scalar. -/
def finish (acc : List Char) (fold : Fold) (pos : Position) (rest : List Char) : Scanned Result :=
  ⟨⟨String.ofList acc.reverse, fold.broken⟩, pos, rest⟩

/-- Read on, with the characters so far, the latest first, and what stands behind them. -/
def scanOnto (ctx : Context) (acc : List Char) (fold : Fold) (pos : Position) :
    List Char → Except Fault (Scanned Result)
  | [] => .ok (finish acc fold pos [])
  | '\r' :: '\n' :: rest => scanOnto ctx acc (fold.addBreak '\n') (pos.newLine 2) rest
  | c :: rest =>
    if isBreak c then scanOnto ctx acc (fold.addBreak c) (pos.newLine 1) rest
    else if isGap c then
      if c == '\t' && fold.broken && pos.column < ctx.indent then .error .tabInIndentation
      else scanOnto ctx acc (fold.addGap c) pos.next rest
    else if !fold.isEmpty && endsBefore ctx pos c rest then .ok (finish acc fold pos (c :: rest))
    else if touches ctx.inFlow c rest then .error .unexpectedColon
    else if endsAt ctx.inFlow c rest then .ok (finish acc fold pos (c :: rest))
    else scanOnto ctx (c :: (fold.reversed ++ acc)) .empty pos.next rest

/-- The plain scalar that begins here. -/
def scan (ctx : Context) (pos : Position) (text : List Char) : Except Fault (Scanned Result) :=
  scanOnto ctx [] .empty pos text

end SunSpec.Yaml.Plain
