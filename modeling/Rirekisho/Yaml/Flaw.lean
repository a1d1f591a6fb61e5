import Rirekisho.Fault

namespace Rirekisho.Yaml

/-- A flaw of the notation. -/
inductive Flaw where
  | hiddenCharacter
  | strayCharacter
  | keyWithoutColon
  | misplacedEntry
  | misplacedKey
  | misplacedValue
  | strayBracket
  | badDirective
  | badName
  | badTag
  | badHeader
  | openQuote
  | quoteAcross
  | badEscape
  | missingNode
  | missingEnd
  | repeatedAnchor
  | unknownAnchor
  | unknownHandle
  | furtherDocument
  | unknownTag
  | wrongKind
  | collectionAsKey
  | badMerge
  | badBinary
  deriving Repr, DecidableEq

namespace Flaw

/-- The words for a flaw. -/
def text : Flaw → String
  | .hiddenCharacter => "a character does not show"
  | .strayCharacter => "a character begins nothing"
  | .keyWithoutColon => "a key has no colon on its line"
  | .misplacedEntry => "an entry of a list stands where none can"
  | .misplacedKey => "a key stands where none can"
  | .misplacedValue => "a value stands where none can"
  | .strayBracket => "a bracket closes nothing"
  | .badDirective => "a directive is not understood"
  | .badName => "an anchor has no proper name"
  | .badTag => "a tag is not understood"
  | .badHeader => "the header of a block is not understood"
  | .openQuote => "a quote is not closed"
  | .quoteAcross => "a quote is not closed before a mark between documents"
  | .badEscape => "an escape is not understood"
  | .missingNode => "a value is missing"
  | .missingEnd => "a collection does not end"
  | .repeatedAnchor => "an anchor is set twice"
  | .unknownAnchor => "an anchor is not set"
  | .unknownHandle => "a handle of a tag is not declared"
  | .furtherDocument => "a further document follows"
  | .unknownTag => "nothing is known of a tag"
  | .wrongKind => "a tag does not fit its value"
  | .collectionAsKey => "a collection is a key"
  | .badMerge => "something else than mappings is merged"
  | .badBinary => "binary data are not understood"

/-- The failure that a flaw is. -/
def toFailure (flaw : Flaw) : Failure := .badDocument flaw.text

end Flaw

end Rirekisho.Yaml
