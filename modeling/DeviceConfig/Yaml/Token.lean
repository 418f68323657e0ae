import DeviceConfig.Yaml.Fault

/-!
The tokens of a YAML stream. Indentation has become start and end tokens.
-/

namespace DeviceConfig.Yaml

/-- The characters of a tag. Its escapes may write bytes that are no character; `none` stands for
    those. -/
abbrev TagText := List (Option Char)

inductive Token where
  | streamEnd
  | versionDirective (major minor : Nat)
  | tagDirective (handle : String) (replacement : TagText)
  | documentStart
  | documentEnd
  | blockSequenceStart
  | blockMappingStart
  | blockEnd
  | flowSequenceStart
  | flowSequenceEnd
  | flowMappingStart
  | flowMappingEnd
  | blockEntry
  | flowEntry
  | key
  | value
  | aliasName (name : String)
  | anchor (name : String)
  | tag (handle : String) (rest : TagText)
  | scalar (text : String) (isPlain : Bool)
  deriving Repr, DecidableEq

def isSpacing (c : Char) : Bool := c == ' ' || c == '\t'

def isBreak (c : Char) : Bool :=
  c == '\n' || c == '\r' || c.toNat == 0x85 || c.toNat == 0x2028 || c.toNat == 0x2029

/-- Whether a token ends before this text: at spacing, a line's end or the stream's end. -/
def endsToken : List Char → Bool
  | [] => true
  | c :: _ => isSpacing c || isBreak c

/-- Letters, digits, underscore and hyphen. -/
def isWordChar (c : Char) : Bool := c.isAlphanum || c == '_' || c == '-'

/-- A line's end as it counts in a scalar. -/
def breakChar (c : Char) : Char :=
  if c.toNat == 0x2028 || c.toNat == 0x2029 then c else '\n'

/-- The characters after the line end that the text starts with. -/
def afterBreak : List Char → List Char
  | '\r' :: '\n' :: rest => rest
  | _ :: rest => rest
  | [] => []

/-- Three hyphens or points that stand alone. -/
def startsDocumentMark : List Char → Bool
  | '-' :: '-' :: '-' :: rest => endsToken rest
  | '.' :: '.' :: '.' :: rest => endsToken rest
  | _ => false

end DeviceConfig.Yaml
