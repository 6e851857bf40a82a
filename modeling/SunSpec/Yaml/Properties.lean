import SunSpec.Text.Hex
import SunSpec.Text.Utf8
import SunSpec.Yaml.Characters
import SunSpec.Yaml.Token

/-!
# Anchors, tags and directives

The tokens that say something about a node or about a document. Each function reads the text behind
the indicator.
-/

namespace SunSpec.Yaml.Properties

/-- A character that may follow a name at once. -/
def endsName : List Char → Bool
  | [] => true
  | c :: rest => gapAhead (c :: rest) || "?:,]\x7d%@`".toList.contains c

/-- The name of an anchor or an alias. -/
def name (pos : Position) (text : List Char) : Except Fault (Scanned String) :=
  let run := takeRun isWord pos text
  if run.value.isEmpty || !endsName run.rest then .error .badName
  else .ok { run with value := String.ofList run.value }

/-- A character of tags; inside angle brackets three more are allowed. -/
def isUri (verbatim : Bool) (c : Char) : Bool :=
  isWord c || ";/?:@&=+$.!~*'()".toList.contains c || (verbatim && ",[]".toList.contains c)

/-- The bytes of a tag, with escapes of two digits undone. -/
def octets (verbatim : Bool) (acc : List UInt8) (pos : Position) :
    List Char → Except Fault (Scanned (List UInt8))
  | '%' :: hi :: lo :: rest =>
    match Hex.value? hi, Hex.value? lo with
    | some h, some l => octets verbatim (UInt8.ofNat (16 * h + l) :: acc) (pos.advance 3) rest
    | _, _ => .error .badTag
  | c :: rest =>
    if c == '%' then .error .badTag
    else if isUri verbatim c then
      octets verbatim (UInt8.ofNat c.toNat :: acc) pos.next rest
    else .ok ⟨acc.reverse, pos, c :: rest⟩
  | [] => .ok ⟨acc.reverse, pos, []⟩

/-- The text of a tag, which may be empty. -/
def uri (verbatim : Bool) (pos : Position) (text : List Char) : Except Fault (Scanned String) := do
  let run ← octets verbatim [] pos text
  match Utf8.decode? run.value with
  | some s => return { run with value := s }
  | none => throw .badTag

/-- The text of a tag, which is not empty. -/
def uri1 (verbatim : Bool) (pos : Position) (text : List Char) : Except Fault (Scanned String) := do
  let run ← uri verbatim pos text
  if run.value.isEmpty then throw .badTag
  return run

/-- A tag handle, with an exclamation mark on both sides. -/
def handle? (pos : Position) (text : List Char) : Option (Scanned String) :=
  let run := takeRun isWord pos text
  match run.rest with
  | '!' :: rest => some ⟨"!" ++ String.ofList run.value ++ "!", run.pos.next, rest⟩
  | _ => none

/-- A tag: one in angle brackets, a handle with something behind it, or something alone. -/
def anyTag (pos : Position) (text : List Char) : Except Fault (Scanned Token) :=
  match text with
  | '<' :: rest => do
    let run ← uri1 true pos.next rest
    match run.rest with
    | '>' :: rest => return ⟨.tag "" run.value, run.pos.next, rest⟩
    | _ => throw .badTag
  | _ =>
    match handle? pos text with
    | some h => do
      let run ← uri1 false h.pos h.rest
      return ⟨.tag h.value run.value, run.pos, run.rest⟩
    | none => do
      let run ← uri false pos text
      if run.value.isEmpty then return ⟨.tag "" "!", run.pos, run.rest⟩
      else return ⟨.tag "!" run.value, run.pos, run.rest⟩

/-- A tag and the end of it: a gap, or a comma inside brackets. -/
def tag (inFlow : Bool) (pos : Position) (text : List Char) : Except Fault (Scanned Token) := do
  let t ← anyTag pos text
  if gapAhead t.rest || (inFlow && t.rest.head? == some ',') then return t
  else throw .badTag

/-- A number of at most nine digits. -/
def number (pos : Position) (text : List Char) : Except Fault (Scanned Nat) :=
  let run := takeRun Char.isDigit pos text
  if run.value.isEmpty || 9 < run.value.length then .error .badDirective
  else .ok { run with value := run.value.foldl (fun n c => n * 10 + (c.toNat - 48)) 0 }

/-- The version that a directive asks for. -/
def version (pos : Position) (text : List Char) : Except Fault (Scanned Token) := do
  let major ← number pos text
  match major.rest with
  | '.' :: rest =>
    let minor ← number major.pos.next rest
    return ⟨.version major.value minor.value, minor.pos, minor.rest⟩
  | _ => throw .badDirective

/-- A tag handle and what it stands for. -/
def handle (pos : Position) (text : List Char) : Except Fault (Scanned Token) := do
  let (pos, text) ← match text with
    | '!' :: text => pure (pos.next, text)
    | _ => throw .badDirective
  let name : Scanned String := (handle? pos text).getD ⟨"!", pos, text⟩
  if !(name.rest.head?.any isGap) then throw .badDirective
  let gaps := takeRun isGap name.pos name.rest
  let stem ← uri1 true gaps.pos gaps.rest
  if !gapAhead stem.rest then throw .badDirective
  return ⟨.handle name.value stem.value, stem.pos, stem.rest⟩

/-- A directive and the rest of its line. -/
def directive (pos : Position) (text : List Char) : Except Fault (Scanned Token) := do
  let name ← name pos text
  if !gapAhead name.rest then throw .badDirective
  let gaps := takeRun isGap name.pos name.rest
  let token ← match name.value with
    | "YAML" => version gaps.pos gaps.rest
    | "TAG" => handle gaps.pos gaps.rest
    | _ => throw .badDirective
  let (pos, rest) := skipToLineEnd token.pos token.rest
  if !lineEnds rest then throw .badDirective
  let (pos, rest) := skipBreak pos rest
  return ⟨token.value, pos, rest⟩

end SunSpec.Yaml.Properties
