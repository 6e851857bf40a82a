/-!
# Tokens of documents

A document as a sequence of indicators and scalars. Indentation has become explicit: a block
collection has a token where it starts and one where it ends, and a key has a token in front of it
even where the text shows only the colon behind it.
-/

namespace SunSpec.Yaml

/-- How a scalar is written. -/
inductive ScalarStyle where
  | plain
  | singleQuoted
  | doubleQuoted
  | literal
  | folded
deriving DecidableEq, Repr

/-- A token of a document. -/
inductive Token where
  | version (major minor : Nat)
  /-- What a tag handle stands for. -/
  | handle (name stem : String)
  | documentStart
  | documentEnd
  | blockSequenceStart
  | blockMappingStart
  | blockEnd
  | flowSequenceStart
  | flowSequenceEnd
  | flowMappingStart
  | flowMappingEnd
  | blockEntry
  | flowEntry
  | key
  | value
  | anchor (name : String)
  | alias (name : String)
  /-- A tag as it is written: a handle, which may be empty, and what follows it. -/
  | tag (handle suffix : String)
  | scalar (style : ScalarStyle) (text : String)
deriving DecidableEq, Repr

end SunSpec.Yaml
