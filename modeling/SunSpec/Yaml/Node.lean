import SunSpec.Yaml.Token

/-!
# Nodes of documents

A document as a tree. Aliases are gone: what an alias names stands in its place. Tags are written
out in full, and a node that does not exist is an empty plain scalar.
-/

namespace SunSpec.Yaml

/-- A tag in full. -/
abbrev Tag := String

/-- A node of a document. -/
inductive Node where
  | scalar (tag : Option Tag) (style : ScalarStyle) (text : String)
  | sequence (tag : Option Tag) (items : List Node)
  | mapping (tag : Option Tag) (pairs : List (Node × Node))
deriving Repr

namespace Node

/-- The node that stands for nothing. -/
def empty : Node := .scalar none .plain ""

/-- Nothing is written here, but for a tag. -/
def isEmpty : Node → Bool
  | scalar _ .plain text => text.isEmpty
  | _ => false

end Node

end SunSpec.Yaml
