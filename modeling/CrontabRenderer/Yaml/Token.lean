import CrontabRenderer.Yaml.Tag

/-!
# Tokens of YAML texts

The signs of a text in their order. Indentation is made explicit: block collections have a token
where they start and one where they end, and every key has a token in front.
-/
namespace CrontabRenderer.Yaml

/-- How a scalar is written. -/
inductive Style where
  | plain
  | singleQuoted
  | doubleQuoted
  | literal
  | folded
  deriving Repr, DecidableEq

inductive Token where
  | version (major minor : Nat)
  | tagHandle (handle : String) (expansion : Tag)
  | documentStart
  | documentEnd
  | blockSequenceStart
  | blockMappingStart
  | blockEnd
  | flowSequenceStart
  | flowSequenceEnd
  | flowMappingStart
  | flowMappingEnd
  | blockItem
  | flowItem
  | key
  | value
  | alias (name : String)
  | anchor (name : String)
  | tag (handle : String) (suffix : Tag)
  | scalar (text : String) (style : Style)
  | streamEnd
  deriving Repr, DecidableEq

end CrontabRenderer.Yaml
