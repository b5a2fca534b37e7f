/-!
# Tokens of a document

What the text of a document is cut into. Indentation has tokens of its own: a
block collection has one where it begins and one where it ends.
-/

namespace Stepwise.Yaml

/-- How a scalar was written. -/
inductive ScalarStyle where
  | plain
  | singleQuoted
  | doubleQuoted
  | literal
  | folded
deriving Repr, DecidableEq, Inhabited

/-- The line breaks kept at the end of a block scalar: the first one, none, or
all. -/
inductive Chomping where
  | clip
  | strip
  | keep
deriving Repr, DecidableEq

inductive Token where
  | streamStart
  | streamEnd
  | versionDirective (major minor : Nat)
  | tagDirective (handle : String) (lead : List UInt8)
  | documentStart
  | documentEnd
  | blockSequenceStart
  | blockMappingStart
  | blockEnd
  | flowSequenceStart
  | flowSequenceEnd
  | flowMappingStart
  | flowMappingEnd
  | blockEntry
  | flowEntry
  | key
  | value
  | alias (name : String)
  | anchor (name : String)
  | tag (handle : String) (suffix : List UInt8)
  | scalar (text : String) (style : ScalarStyle)
deriving Repr, DecidableEq, Inhabited

end Stepwise.Yaml
