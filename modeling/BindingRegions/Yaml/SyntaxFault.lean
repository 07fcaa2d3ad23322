/-! Why a text is not one YAML document. -/

namespace BindingRegions.Yaml

inductive SyntaxFault where
  | forbiddenCharacter (c : Char)
  | strayCharacter (c : Char)
  | strayTab
  | missingColon
  | misplacedEntry
  | misplacedKey
  | misplacedValue
  | badDirective
  | badTag
  | badEscape
  | badAnchor
  | badBlockHeader
  | unclosedScalar
  | colonInFlow
  | undefinedHandle (handle : String)
  | undefinedAlias (name : String)
  | missingNode
  | unclosedCollection
  | repeatedDirective
  | unsupportedVersion
  | missingDocumentStart
  | severalDocuments
  | tooDeep
  deriving DecidableEq, Repr

def SyntaxFault.message : SyntaxFault → String
  | forbiddenCharacter _ => "control characters are not allowed"
  | strayCharacter _ => "found character that cannot start any token"
  | strayTab => "found a tab character where an indentation space is expected"
  | missingColon => "could not find expected ':'"
  | misplacedEntry => "block sequence entries are not allowed in this context"
  | misplacedKey => "mapping keys are not allowed in this context"
  | misplacedValue => "mapping values are not allowed in this context"
  | badDirective => "found an ill-formed directive"
  | badTag => "found an ill-formed tag"
  | badEscape => "found an ill-formed escape sequence"
  | badAnchor => "found an ill-formed anchor or alias"
  | badBlockHeader => "found an ill-formed block scalar header"
  | unclosedScalar => "found unexpected end of a quoted scalar"
  | colonInFlow => "found unexpected ':'"
  | undefinedHandle _ => "found undefined tag handle"
  | undefinedAlias _ => "unknown anchor"
  | missingNode => "did not find expected node content"
  | unclosedCollection => "did not find the end of a collection"
  | repeatedDirective => "found duplicate directive"
  | unsupportedVersion => "found incompatible YAML document"
  | missingDocumentStart => "did not find expected <document start>"
  | severalDocuments => "the text has more than one document"
  | tooDeep => "the text is nested too deeply"

end BindingRegions.Yaml
