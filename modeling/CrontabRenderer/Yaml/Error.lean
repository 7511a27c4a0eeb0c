import CrontabRenderer.Shape

/-!
# Faults of YAML texts
-/
namespace CrontabRenderer.Yaml

inductive Error where
  | forbiddenCharacter
  | unexpectedCharacter
  | misplacedItem
  | misplacedKey
  | misplacedValue
  /-- A key that has to be one ends without its colon. -/
  | missingColon
  | tabInIndentation
  | openQuotation
  | documentMarkInQuotation
  | unknownEscape
  | badDirective
  | badTag
  | badAnchor
  | badBlockHeader
  | unexpectedToken
  | undefinedHandle
  | undefinedAnchor
  | severalDocuments
  | tooDeep
  | tooManyAliases
  /-- The document is read, but is not the value that is wanted. -/
  | shape (error : ShapeError)
  deriving Repr, DecidableEq

def Error.message : Error → String
  | .forbiddenCharacter => "control characters are not allowed"
  | .unexpectedCharacter => "found character that cannot start any token"
  | .misplacedItem => "block sequence entries are not allowed in this context"
  | .misplacedKey => "mapping keys are not allowed in this context"
  | .misplacedValue => "mapping values are not allowed in this context"
  | .missingColon => "could not find expected ':'"
  | .tabInIndentation => "found a tab character where indentation is expected"
  | .openQuotation => "found unexpected end of stream"
  | .documentMarkInQuotation => "found unexpected document indicator"
  | .unknownEscape => "found unknown escape character"
  | .badDirective => "found a directive that is not understood"
  | .badTag => "found a tag that is not well formed"
  | .badAnchor => "did not find expected alphabetic or numeric character"
  | .badBlockHeader => "found a block scalar header that is not well formed"
  | .unexpectedToken => "did not find expected node content"
  | .undefinedHandle => "found undefined tag handle"
  | .undefinedAnchor => "unknown anchor"
  | .severalDocuments => "more than one document"
  | .tooDeep => "recursion limit exceeded"
  | .tooManyAliases => "repetition limit exceeded"
  | .shape error => error.message

end CrontabRenderer.Yaml
