/-!
# Tokens of YAML

A text in YAML is read as a row of tokens.  Blocks, which are told apart by their
indentation, get a token at their start and one at their end, so that what the tokens
stand for does not depend on lines.
-/

namespace DocStore
namespace Yaml

/-- A token. -/
inductive Token where
  /-- The mark in front of a document. -/
  | documentStart
  /-- The mark behind a document. -/
  | documentEnd
  /-- A directive about the version. -/
  | version
  /-- A directive that says what a handle of tags stands for. -/
  | handle (name meaning : String)
  /-- The start of a sequence of indented entries. -/
  | sequenceStart
  /-- The start of a mapping of indented keys. -/
  | mappingStart
  /-- The end of a sequence or mapping by indentation. -/
  | blockEnd
  /-- The dash in front of an entry. -/
  | entry
  /-- What stands in front of a key. -/
  | key
  /-- What stands in front of a value. -/
  | value
  /-- The bracket that opens a sequence. -/
  | openSequence
  /-- The bracket that closes a sequence. -/
  | closeSequence
  /-- The brace that opens a mapping. -/
  | openMapping
  /-- The brace that closes a mapping. -/
  | closeMapping
  /-- The comma between entries. -/
  | comma
  /-- A name for the node that follows. -/
  | anchor (name : String)
  /-- A node by its name. -/
  | reference (name : String)
  /-- What kind of node follows: a handle and what is behind it. -/
  | tag (handle rest : String)
  /-- A scalar, plain or else quoted or kept line by line. -/
  | scalar (plain : Bool) (text : String)
  deriving DecidableEq, Repr

/-- Whether a token belongs to the node that follows. -/
def Token.isProperty : Token → Bool
  | anchor _ => true
  | tag _ _ => true
  | _ => false

end Yaml
end DocStore
