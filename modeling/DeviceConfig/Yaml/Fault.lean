/-!
Why a text is not a YAML document.
-/

namespace DeviceConfig.Yaml

inductive Fault where
  | controlCharacter (code : Nat)
  | unexpectedCharacter (c : Char)
  | unexpectedEnd
  | tabAsIndentation
  | noColon
  | sequenceEntryNotAllowed
  | keyNotAllowed
  | valueNotAllowed
  | documentMarkInScalar
  | badEscape
  | badBlockHeader
  | badAnchor
  | badTag
  | badDirective
  | ambiguousColon
  | unexpectedToken (wanted : String)
  | undefinedTagHandle (handle : String)
  | undefinedAnchor (name : String)
  | duplicateKey
  | tooDeep
  | tooManyAliases
  | numberTooLarge (text : String)
  | wrongScalar (text wanted : String)
  | severalDocuments
  deriving Repr, DecidableEq

def Fault.message : Fault → String
  | controlCharacter code => s!"control character {code} is not allowed"
  | unexpectedCharacter c => s!"found '{c}' where no token can start with it"
  | unexpectedEnd => "the document ends inside a scalar"
  | tabAsIndentation => "found a tab where spaces are expected"
  | noColon => "a mapping key has no ':'"
  | sequenceEntryNotAllowed => "a sequence entry is not allowed here"
  | keyNotAllowed => "a mapping key is not allowed here"
  | valueNotAllowed => "a mapping value is not allowed here"
  | documentMarkInScalar => "found a document mark inside a quoted scalar"
  | badEscape => "unknown escape in a quoted scalar"
  | badBlockHeader => "malformed header of a block scalar"
  | badAnchor => "malformed anchor or alias"
  | badTag => "malformed tag"
  | badDirective => "malformed directive"
  | ambiguousColon => "found an unexpected ':' in a plain scalar"
  | unexpectedToken wanted => s!"did not find expected {wanted}"
  | undefinedTagHandle handle => s!"undefined tag handle '{handle}'"
  | undefinedAnchor name => s!"unknown anchor '{name}'"
  | duplicateKey => "duplicate key in a mapping"
  | tooDeep => "too many nested collections"
  | tooManyAliases => "too many repetitions through aliases"
  | numberTooLarge text => s!"number {text} does not fit in 64 bits"
  | wrongScalar text wanted => s!"'{text}' is not {wanted}"
  | severalDocuments => "more than one document"

end DeviceConfig.Yaml
