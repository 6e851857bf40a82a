/-!
# Faults of documents

Why a text is not a document, or not a document of the form that is wanted. The causes go from the
outside in: characters, tokens, the composition of nodes, and the reading of nodes.
-/

namespace SunSpec.Yaml

/-- Why a document cannot be read. -/
inductive Fault where
  /-- A control character, or one that is no character at all. -/
  | unreadable (c : Char)
  /-- A character that no token begins with. -/
  | noToken (c : Char)
  /-- A tab where the indentation is. -/
  | tabInIndentation
  /-- A key that stands at the start of a line and is not followed by a colon. -/
  | keyWithoutColon
  /-- An entry, a key or a value where the line does not allow one. -/
  | misplaced (indicator : Char)
  /-- A quoted scalar that the text or the document ends in. -/
  | unclosedQuote
  /-- A backslash in front of something that it does not escape. -/
  | badEscape
  /-- A colon that touches an indicator inside brackets. -/
  | unexpectedColon
  /-- What stands behind the indicator of a block scalar is not a header. -/
  | badBlockHeader
  /-- An anchor or an alias without a proper name. -/
  | badName
  /-- A tag that is not well formed. -/
  | badTag
  /-- A directive that is unknown, malformed, repeated, or asks for another version. -/
  | badDirective
  /-- A tag whose handle has not been declared. -/
  | undeclaredHandle (handle : String)
  /-- Directives without a document behind them. -/
  | noDocumentStart
  /-- Something else where a node belongs. -/
  | noNode
  /-- A collection that goes on with something else than an entry or its end. -/
  | brokenCollection
  /-- An alias of something that has no such name, or that the alias is part of. -/
  | badAlias (name : String)
  /-- Collections nested too deeply. -/
  | tooDeep
  /-- Aliases that blow the document up. -/
  | tooManyAliases
  /-- A second document. -/
  | secondDocument
  /-- A node of another kind than is wanted. -/
  | wrongKind (wanted : String)
  /-- A scalar that its tag or its place does not admit. -/
  | badScalar (text wanted : String)
  /-- A key that the record does not have. -/
  | unknownField (name : String)
  /-- A key that stands twice. -/
  | duplicateKey (name : String)
  /-- A key that is missing. -/
  | missingField (name : String)
deriving DecidableEq, Repr

namespace Fault

/-- The words for a fault. -/
def message : Fault → String
  | unreadable _ => "control characters are not allowed"
  | noToken _ => "found character that cannot start any token"
  | tabInIndentation => "found a tab character that violates indentation"
  | keyWithoutColon => "could not find expected ':'"
  | misplaced '-' => "block sequence entries are not allowed in this context"
  | misplaced '?' => "mapping keys are not allowed in this context"
  | misplaced _ => "mapping values are not allowed in this context"
  | unclosedQuote => "found unexpected end of a quoted scalar"
  | badEscape => "found unknown escape character"
  | unexpectedColon => "found unexpected ':'"
  | badBlockHeader => "did not find expected comment or line break"
  | badName => "did not find expected alphabetic or numeric character"
  | badTag => "did not find expected tag URI"
  | badDirective => "found an incompatible directive"
  | undeclaredHandle h => s!"found undefined tag handle {h}"
  | noDocumentStart => "did not find expected <document start>"
  | noNode => "did not find expected node content"
  | brokenCollection => "did not find expected key or entry"
  | badAlias name => s!"unknown anchor {name}"
  | tooDeep => "recursion limit exceeded"
  | tooManyAliases => "repetition limit exceeded"
  | secondDocument => "deserializing from YAML containing more than one document is not supported"
  | wrongKind wanted => s!"invalid type: expected {wanted}"
  | badScalar text wanted => s!"invalid value: {text}, expected {wanted}"
  | unknownField name => s!"unknown field {name}"
  | duplicateKey name => s!"duplicate entry {name}"
  | missingField name => s!"missing field {name}"

end Fault

end SunSpec.Yaml
