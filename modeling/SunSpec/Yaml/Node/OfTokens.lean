import SunSpec.Yaml.Fault
import SunSpec.Yaml.Node

/-!
# From tokens to a node

`Node.ofTokens` reads the tokens of one document. A name is bound as soon as its node begins, so
that an alias inside the node, which would make it infinite, is seen. Collections may be nested 128
deep, with what aliases stand for counted in full; and so that a short text cannot stand for a
large tree, the aliases that are met in walking the tree are at most a hundred for each node, each
start and each end of a collection that is written.
-/

namespace SunSpec.Yaml

/-- A node with its measures. -/
structure Sized where
  node : Node
  /-- Levels of collections. -/
  depth : Nat
  /-- Aliases that a walk over the node meets. -/
  aliases : Nat

namespace Sized

/-- A scalar has no levels. -/
def scalar (tag : Option Tag) (style : ScalarStyle) (text : String) : Sized :=
  ⟨.scalar tag style text, 0, 0⟩

/-- The node that stands for nothing. -/
def empty : Sized := ⟨.empty, 0, 0⟩

/-- A sequence of nodes. -/
def sequence (tag : Option Tag) (items : Array Sized) : Sized :=
  ⟨.sequence tag (items.toList.map Sized.node), items.foldl (fun d s => max d s.depth) 0 + 1,
    items.foldl (fun n s => n + s.aliases) 0⟩

/-- A mapping of keys to values. -/
def mapping (tag : Option Tag) (pairs : Array (Sized × Sized)) : Sized :=
  ⟨.mapping tag (pairs.toList.map fun (k, v) => (k.node, v.node)),
    pairs.foldl (fun d (k, v) => max d (max k.depth v.depth)) 0 + 1,
    pairs.foldl (fun n (k, v) => n + k.aliases + v.aliases) 0⟩

end Sized

/-- The state of the reading. -/
structure Composer where
  tokens : List Token
  /-- Names with what they stand for, the latest first; nothing as long as the node is read. -/
  names : List (String × Option Sized)
  /-- Nodes, starts and ends of collections so far. -/
  events : Nat

/-- A step of the reading. -/
abbrev Compose := StateT Composer (Except Fault)

/-- Where a node stands. -/
structure NodeContext where
  /-- Block collections may begin here. -/
  block : Bool
  /-- The entries of a sequence may stand here without an indentation of their own. -/
  indentless : Bool

/-- Properties in front of a node. -/
structure NodeProperties where
  name : Option String
  tag : Option Tag

/-- Tag handles and what they stand for. -/
abbrev Handles := List (String × String)

namespace Compose

/-- How deep collections may be nested. -/
def depthLimit : Nat := 128

/-- The handles that need no directive. -/
def defaultHandles : Handles := [("!", "!"), ("!!", "tag:yaml.org,2002:")]

/-- The next token. -/
def peek : Compose (Option Token) := fun s => .ok (s.tokens.head?, s)

/-- Step over the next token. -/
def skip : Compose Unit := fun s => .ok ((), { s with tokens := s.tokens.tail })

/-- Step over the next token if it is this one. -/
def accept (t : Token) : Compose Bool := fun s =>
  match s.tokens with
  | t' :: rest => if t' = t then .ok (true, { s with tokens := rest }) else .ok (false, s)
  | [] => .ok (false, s)

/-- The next token is one of these. -/
def isAhead (ts : List Token) : Compose Bool := fun s =>
  .ok (s.tokens.head?.any ts.contains, s)

/-- Count nodes, starts and ends. -/
def count (n : Nat) : Compose Unit := fun s => .ok ((), { s with events := s.events + n })

/-- A name is bound to a node that is being read. -/
def open? (name : Option String) : Compose Unit := fun s =>
  match name with
  | some n => .ok ((), { s with names := (n, none) :: s.names })
  | none => .ok ((), s)

/-- A name is bound to a node that has been read. -/
def close? (name : Option String) (node : Sized) : Compose Sized := fun s =>
  match name with
  | some n => .ok (node, { s with names := (n, some node) :: s.names })
  | none => .ok (node, s)

/-- What an alias stands for, at a place with so many levels left. -/
def resolve (name : String) (levels : Nat) : Compose Sized := fun s =>
  match s.names.lookup name with
  | some (some node) =>
    if levels < node.depth then .error .tooDeep
    else .ok ({ node with aliases := node.aliases + 1 }, s)
  | _ => .error (.badAlias name)

/-- An empty node. -/
def nothing : Compose Sized := do
  count 1
  return .empty

/-- The tag that a handle and what follows it stand for. -/
def fullTag (handles : Handles) (handle suffix : String) : Compose Tag :=
  if handle.isEmpty then return suffix
  else match handles.lookup handle with
    | some stem => return stem ++ suffix
    | none => throw (.undeclaredHandle handle)

/-- A tag, if one stands here. -/
def tag? (handles : Handles) : Compose (Option Tag) := do
  match ← peek with
  | some (.tag h s) =>
    skip
    return some (← fullTag handles h s)
  | _ => return none

/-- An anchor, if one stands here. -/
def anchor? : Compose (Option String) := do
  match ← peek with
  | some (.anchor name) =>
    skip
    return some name
  | _ => return none

/-- The properties of a node, in either order. -/
def properties (handles : Handles) : Compose NodeProperties := do
  match ← anchor? with
  | some name => return ⟨name, ← tag? handles⟩
  | none =>
    match ← tag? handles with
    | some tag => return ⟨← anchor?, tag⟩
    | none => return ⟨none, none⟩

/-- A scalar with its properties; the tag that says nothing is dropped. -/
def scalar (p : NodeProperties) (style : ScalarStyle) (text : String) : Compose Sized := do
  count 1
  close? p.name (.scalar (p.tag.filter (· != "!")) style text)

/-- A node of which nothing but properties is written. -/
def absent (p : NodeProperties) : Compose Sized := do
  if p.name.isNone && p.tag.isNone then throw .noNode
  count 1
  close? p.name (.scalar p.tag .plain "")

mutual

/-- A node, at a place with so many levels left. -/
def node (handles : Handles) (levels : Nat) (ctx : NodeContext)
    (fuel : Nat) : Compose Sized :=
  match fuel with
  | 0 => throw .noNode
  | fuel + 1 => do
    match ← peek with
    | some (.alias name) =>
      skip
      count 1
      resolve name levels
    | _ =>
      let p ← properties handles
      match ← peek with
      | some (.scalar style text) =>
        skip
        scalar p style text
      | some .blockEntry =>
        if ctx.indentless then collection handles levels p .blockEntry fuel else absent p
      | some .flowSequenceStart => collection handles levels p .flowSequenceStart fuel
      | some .flowMappingStart => collection handles levels p .flowMappingStart fuel
      | some .blockSequenceStart =>
        if ctx.block then collection handles levels p .blockSequenceStart fuel else absent p
      | some .blockMappingStart =>
        if ctx.block then collection handles levels p .blockMappingStart fuel else absent p
      | _ => absent p
termination_by structural fuel

/-- A collection that begins with this token. -/
def collection (handles : Handles) (levels : Nat) (p : NodeProperties) (first : Token)
    (fuel : Nat) : Compose Sized :=
  match fuel with
  | 0 => throw .noNode
  | fuel + 1 => do
    match levels with
    | 0 => throw .tooDeep
    | levels + 1 =>
      open? p.name
      count 2
      let whole ← match first with
        | .blockEntry => pure (Sized.sequence p.tag (← indentless handles levels #[] fuel))
        | .blockSequenceStart =>
          skip
          pure (Sized.sequence p.tag (← blockSequence handles levels #[] fuel))
        | .flowSequenceStart =>
          skip
          pure (Sized.sequence p.tag (← flowSequence handles levels #[] fuel))
        | .blockMappingStart =>
          skip
          pure (Sized.mapping p.tag (← blockMapping handles levels #[] fuel))
        | _ =>
          skip
          pure (Sized.mapping p.tag (← flowMapping handles levels #[] fuel))
      close? p.name whole
termination_by structural fuel

/-- The entries of a sequence, up to its end. -/
def blockSequence (handles : Handles) (levels : Nat) (items : Array Sized)
    (fuel : Nat) : Compose (Array Sized) :=
  match fuel with
  | 0 => throw .brokenCollection
  | fuel + 1 => do
    if ← accept .blockEnd then return items
    if !(← accept .blockEntry) then throw .brokenCollection
    let item ← if ← isAhead [.blockEntry, .blockEnd] then nothing
      else node handles levels ⟨true, false⟩ fuel
    blockSequence handles levels (items.push item) fuel
termination_by structural fuel

/-- The entries of a sequence that has no indentation of its own. -/
def indentless (handles : Handles) (levels : Nat) (items : Array Sized)
    (fuel : Nat) : Compose (Array Sized) :=
  match fuel with
  | 0 => throw .brokenCollection
  | fuel + 1 => do
    if !(← accept .blockEntry) then return items
    let item ← if ← isAhead [.blockEntry, .key, .value, .blockEnd] then nothing
      else node handles levels ⟨true, false⟩ fuel
    indentless handles levels (items.push item) fuel
termination_by structural fuel

/-- The keys and values of a mapping, up to its end. -/
def blockMapping (handles : Handles) (levels : Nat) (pairs : Array (Sized × Sized))
    (fuel : Nat) : Compose (Array (Sized × Sized)) :=
  match fuel with
  | 0 => throw .brokenCollection
  | fuel + 1 => do
    if ← accept .blockEnd then return pairs
    if !(← accept .key) then throw .brokenCollection
    let key ← if ← isAhead [.key, .value, .blockEnd] then nothing
      else node handles levels ⟨true, true⟩ fuel
    let value ← if !(← accept .value) then nothing
      else if ← isAhead [.key, .value, .blockEnd] then nothing
      else node handles levels ⟨true, true⟩ fuel
    blockMapping handles levels (pairs.push (key, value)) fuel
termination_by structural fuel

/-- The entries of a sequence in brackets, up to its end; a key makes a mapping of one pair. -/
def flowSequence (handles : Handles) (levels : Nat) (items : Array Sized)
    (fuel : Nat) : Compose (Array Sized) :=
  match fuel with
  | 0 => throw .brokenCollection
  | fuel + 1 => do
    if ← accept .flowSequenceEnd then return items
    if !items.isEmpty then
      if !(← accept .flowEntry) then throw .brokenCollection
    if ← accept .flowSequenceEnd then return items
    let item ← if ← accept .key then pair handles levels fuel
      else node handles levels ⟨false, false⟩ fuel
    flowSequence handles levels (items.push item) fuel
termination_by structural fuel

/-- The mapping of one pair that a key makes in a sequence. A key that is missing takes the token
in its place with it. -/
def pair (handles : Handles) (levels : Nat) (fuel : Nat) : Compose Sized :=
  match fuel with
  | 0 => throw .brokenCollection
  | fuel + 1 => do
    match levels with
    | 0 => throw .tooDeep
    | levels + 1 =>
      count 2
      let key ← if ← isAhead [.value, .flowEntry, .flowSequenceEnd] then
          skip
          nothing
        else node handles levels ⟨false, false⟩ fuel
      let value ← if !(← accept .value) then nothing
        else if ← isAhead [.flowEntry, .flowSequenceEnd] then nothing
        else node handles levels ⟨false, false⟩ fuel
      return .mapping none #[(key, value)]
termination_by structural fuel

/-- The keys and values of a mapping in braces, up to its end; a node without a key mark has no
value. -/
def flowMapping (handles : Handles) (levels : Nat) (pairs : Array (Sized × Sized))
    (fuel : Nat) : Compose (Array (Sized × Sized)) :=
  match fuel with
  | 0 => throw .brokenCollection
  | fuel + 1 => do
    if ← accept .flowMappingEnd then return pairs
    if !pairs.isEmpty then
      if !(← accept .flowEntry) then throw .brokenCollection
    if ← accept .flowMappingEnd then return pairs
    if ← accept .key then
      let ends := [.flowEntry, .flowMappingEnd]
      let key ← if ← isAhead (.value :: ends) then nothing
        else node handles levels ⟨false, false⟩ fuel
      let value ← if !(← accept .value) then nothing
        else if ← isAhead ends then nothing
        else node handles levels ⟨false, false⟩ fuel
      flowMapping handles levels (pairs.push (key, value)) fuel
    else
      let key ← node handles levels ⟨false, false⟩ fuel
      flowMapping handles levels (pairs.push (key, ← nothing)) fuel
termination_by structural fuel

end

/-! ## Documents -/

/-- The directives in front of a document: the handles, and whether there are any. -/
def directives (versioned : Bool) (handles : Handles) :
    List Token → Except Fault (Handles × List Token)
  | .version major minor :: rest =>
    if versioned || major ≠ 1 || (minor ≠ 1 && minor ≠ 2) then .error .badDirective
    else directives true handles rest
  | .handle name stem :: rest =>
    if (handles.lookup name).isSome then .error .badDirective
    else directives versioned ((name, stem) :: handles) rest
  | rest => .ok (handles, rest)

/-- The token ends the document or begins another. -/
def endsDocument : Option Token → Bool
  | none | some .documentStart | some .documentEnd | some (.version ..) | some (.handle ..) => true
  | _ => false

/-- What may stand behind the document: markers of its end. -/
def trailer : List Token → Except Fault Unit
  | [] => .ok ()
  | .documentEnd :: rest => trailer rest
  | _ => .error .secondDocument

/-- The root of the document whose start was read, if one is written. -/
def root (handles : Handles) (bare : Bool) (tokens : List Token) : Except Fault Node := do
  let empty := !bare && endsDocument tokens.head?
  let compose := if empty then nothing
    else node handles depthLimit ⟨true, false⟩ (3 * tokens.length + 3)
  let (sized, s) ← compose.run ⟨tokens, [], 0⟩
  trailer s.tokens
  if 100 * s.events < sized.aliases then throw .tooManyAliases
  return sized.node

end Compose

/-- The root of the only document, if there is one. -/
def Node.ofTokens (tokens : List Token) : Except Fault (Option Node) := do
  let (declared, rest) ← Compose.directives false [] tokens
  let handles := declared ++ Compose.defaultHandles
  match rest with
  | [] => if tokens.isEmpty then return none else throw .noDocumentStart
  | .documentStart :: rest => return some (← Compose.root handles false rest)
  | rest =>
    if rest.length ≠ tokens.length then throw .noDocumentStart
    else return some (← Compose.root handles true rest)

end SunSpec.Yaml
