/-!
# Tokens

What a document consists of once its characters have been grouped: marks of
structure, most of them implied by indentation, and scalars.
-/

namespace LcdCompositor.Yaml

/-- How a scalar is written. -/
inductive Style
  | plain
  | quoted
  | literal
  | folded
deriving DecidableEq, Repr

/-- The full name of a tag, as it is after percent signs have been resolved. -/
abbrev Tag := List UInt8

/-- The tag that a text spells. -/
def Tag.ofString (text : String) : Tag := text.toUTF8.data.toList

/-- One mark of structure, property or scalar. -/
inductive Token
  | version (major minor : Nat)
  | tagHandle (handle : String) (expansion : Tag)
  | documentStart
  | documentEnd
  | blockSequence
  | blockMapping
  | blockEnd
  | flowSequence
  | flowSequenceEnd
  | flowMapping
  | flowMappingEnd
  | entry
  | comma
  | key
  | value
  | alias (name : String)
  | anchor (name : String)
  | tag (handle : String) (suffix : Tag)
  | scalar (text : String) (style : Style)
deriving DecidableEq, Repr

end LcdCompositor.Yaml
