/-!
# Tokens of a document

The marks and scalars of a document in the order in which they mean something. Indentation has
become tokens that open and close blocks, and a key that is followed by a colon has a token before
it.
-/

namespace CloudClient.Yaml

inductive Style
  | plain | singleQuoted | doubleQuoted | literal | folded
deriving DecidableEq, Repr, Inhabited

inductive Token
  | version (major minor : Nat)
  | shorthand (handle expansion : List Char)
  | documentStart
  | documentEnd
  | blockSequence
  | blockMapping
  | blockEnd
  | flowSequence
  | flowSequenceEnd
  | flowMapping
  | flowMappingEnd
  | item
  | separator
  | key
  | value
  | alias (name : List Char)
  | anchor (name : List Char)
  | tag (handle suffix : List Char)
  | scalar (style : Style) (text : List Char)
deriving DecidableEq, Repr, Inhabited

end CloudClient.Yaml
