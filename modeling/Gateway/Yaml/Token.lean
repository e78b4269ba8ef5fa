import Gateway.Yaml.Tag

/-!
# Tokens

A token is a scalar, a mark on the node that follows it, or an indicator of structure.  The
indentation of blocks shows in tokens of its own, which start and end a block collection and stand
for no character.
-/

namespace Gateway.Yaml

/-- A token. -/
inductive Token where
  | directive (content : Directive)
  | documentStart
  | documentEnd
  | blockSequence
  | blockMapping
  | blockEnd
  | flowSequence
  | flowMapping
  | flowSequenceEnd
  | flowMappingEnd
  /-- An item of a block sequence follows. -/
  | item
  /-- A comma between the members of a flow collection. -/
  | comma
  /-- A key follows. -/
  | key
  | value
  | reference (name : Text)
  | anchor (name : Text)
  | tag (written : ShortTag)
  /-- A scalar, which may have been written without quotes. -/
  | scalar (isPlain : Bool) (text : Text)
deriving DecidableEq, Repr

end Gateway.Yaml
