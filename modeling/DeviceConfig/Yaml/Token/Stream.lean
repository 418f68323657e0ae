import DeviceConfig.Yaml.Token.Property
import DeviceConfig.Yaml.Token.Scalar

/-!
From the characters of a YAML stream to its tokens.

A mapping key without a mark of its own is only known as a key when the colon after it is reached:
the place of a token that may turn out to be one is kept, for each level of brackets, and the key
token is put in front of it afterwards.
-/

namespace DeviceConfig.Yaml

structure Cursor where
  rest : List Char
  /-- The number of bytes before. -/
  index : Nat
  line : Nat
  column : Nat
  deriving Repr, DecidableEq

namespace Cursor

/-- Past one character, or past the two characters of one line end. -/
def next (at_ : Cursor) : Cursor :=
  match at_.rest with
  | [] => at_
  | '\r' :: '\n' :: rest => ⟨rest, at_.index + 2, at_.line + 1, 0⟩
  | c :: rest =>
    if isBreak c then ⟨rest, at_.index + c.utf8Size, at_.line + 1, 0⟩
    else ⟨rest, at_.index + c.utf8Size, at_.line, at_.column + 1⟩

/-- Steps on until no more than `remaining` characters are left. -/
def upTo (remaining : Nat) : (steps : Nat) → Cursor → Cursor
  | 0, at_ => at_
  | steps + 1, at_ => if at_.rest.length ≤ remaining then at_ else upTo remaining steps at_.next

def moveTo (at_ : Cursor) (rest : List Char) : Cursor :=
  at_.upTo rest.length (at_.rest.length - rest.length)

def skip (at_ : Cursor) : Nat → Cursor
  | 0 => at_
  | n + 1 => at_.next.skip n

end Cursor

/-- A token that becomes a mapping key if a colon follows. -/
structure PossibleKey where
  /-- Whether the document has an error if no colon follows. -/
  required : Bool
  /-- How many tokens stand before it. -/
  position : Nat
  start : Cursor

structure Scanner where
  cursor : Cursor
  /-- The tokens so far, last first. -/
  tokens : List Token
  /-- The column of the innermost block collection; -1 outside of all. -/
  indent : Int
  outerIndents : List Int
  keyAllowed : Bool
  /-- The possible key of the innermost level. -/
  possibleKey : Option PossibleKey
  /-- Those of the levels around it, one for each open bracket. -/
  outerKeys : List (Option PossibleKey)

namespace Scanner

def start (text : List Char) : Scanner := ⟨⟨text, 0, 0, 0⟩, [], -1, [], true, none, []⟩

def inFlow (s : Scanner) : Bool := !s.outerKeys.isEmpty

def add (s : Scanner) (token : Token) : Scanner := { s with tokens := token :: s.tokens }

/-- Puts a token in front of those from `position` on. -/
def insert (s : Scanner) (position : Nat) (token : Token) : Scanner :=
  let after := s.tokens.length - position
  { s with tokens := s.tokens.take after ++ token :: s.tokens.drop after }

/-- Opens a block collection at this column unless one is open there. -/
def openBlock (s : Scanner) (column : Nat) (position : Nat) (token : Token) : Scanner :=
  if !s.inFlow && s.indent < column then
    { s with indent := column, outerIndents := s.indent :: s.outerIndents }.insert position token
  else s

/-- Closes the block collections that stand to the right of `column`. -/
def closeBlocksFrom (column : Int) (tokens : List Token) (indent : Int) :
    List Int → List Token × Int × List Int
  | [] => (tokens, indent, [])
  | outer :: outers =>
    if column < indent then closeBlocksFrom column (.blockEnd :: tokens) outer outers
    else (tokens, indent, outer :: outers)

def closeBlocks (s : Scanner) (column : Int) : Scanner :=
  if s.inFlow then s
  else
    let (tokens, indent, outer) := closeBlocksFrom column s.tokens s.indent s.outerIndents
    { s with tokens := tokens, indent := indent, outerIndents := outer }

/-- Whether the possible key is still on this line and not too long. -/
def keyIsCurrent (s : Scanner) (key : PossibleKey) : Bool :=
  key.start.line == s.cursor.line && s.cursor.index ≤ key.start.index + 1024

/-- Gives up a possible key that a colon can no longer follow. -/
def dropStale (s : Scanner) (key : Option PossibleKey) : Except Fault (Option PossibleKey) :=
  match key with
  | some k =>
    if s.keyIsCurrent k then .ok (some k) else if k.required then .error .noColon else .ok none
  | none => .ok none

def dropStaleKeys (s : Scanner) : Except Fault Scanner := do
  let possibleKey ← s.dropStale s.possibleKey
  let outerKeys ← s.outerKeys.mapM s.dropStale
  return { s with possibleKey, outerKeys }

/-- Gives up the possible key of this level. -/
def dropKey (s : Scanner) : Except Fault Scanner :=
  match s.possibleKey with
  | some key => if key.required then .error .noColon else .ok { s with possibleKey := none }
  | none => .ok s

/-- Notes that the next token may be a key. -/
def saveKey (s : Scanner) : Except Fault Scanner := do
  if s.keyAllowed then
    let required := !s.inFlow && s.indent == s.cursor.column
    let dropped ← s.dropKey
    return { dropped with possibleKey := some ⟨required, s.tokens.length, s.cursor⟩ }
  else return s

def takeMark (s : Scanner) (width : Nat) (token : Token) : Scanner :=
  { s with cursor := s.cursor.skip width }.add token

def takeUpTo (s : Scanner) (rest : List Char) (token : Token) : Scanner :=
  { s with cursor := s.cursor.moveTo rest }.add token

/-- A token that starts or ends a document. -/
def documentLevel (s : Scanner) : Except Fault Scanner := do
  let s ← (s.closeBlocks (-1)).dropKey
  return { s with keyAllowed := false }

def openFlow (s : Scanner) (token : Token) : Except Fault Scanner := do
  let s ← s.saveKey
  return { s with
    outerKeys := s.possibleKey :: s.outerKeys, possibleKey := none, keyAllowed := true }.takeMark 1
      token

def closeFlow (s : Scanner) (token : Token) : Except Fault Scanner := do
  let s ← s.dropKey
  let s := match s.outerKeys with
    | key :: keys => { s with possibleKey := key, outerKeys := keys }
    | [] => s
  return { s with keyAllowed := false }.takeMark 1 token

def flowEntry (s : Scanner) : Except Fault Scanner := do
  let s ← s.dropKey
  return { s with keyAllowed := true }.takeMark 1 .flowEntry

def blockEntry (s : Scanner) : Except Fault Scanner := do
  if !s.inFlow && !s.keyAllowed then throw .sequenceEntryNotAllowed
  let s ← (s.openBlock s.cursor.column s.tokens.length .blockSequenceStart).dropKey
  return { s with keyAllowed := true }.takeMark 1 .blockEntry

def keyMark (s : Scanner) : Except Fault Scanner := do
  if !s.inFlow && !s.keyAllowed then throw .keyNotAllowed
  let s ← (s.openBlock s.cursor.column s.tokens.length .blockMappingStart).dropKey
  return { s with keyAllowed := !s.inFlow }.takeMark 1 .key

def valueMark (s : Scanner) : Except Fault Scanner := do
  match s.possibleKey with
  | some key =>
    let s := s.insert key.position .key
    let s := s.openBlock key.start.column key.position .blockMappingStart
    return { s with possibleKey := none, keyAllowed := false }.takeMark 1 .value
  | none =>
    if !s.inFlow && !s.keyAllowed then throw .valueNotAllowed
    let s := s.openBlock s.cursor.column s.tokens.length .blockMappingStart
    return { s with keyAllowed := !s.inFlow }.takeMark 1 .value

def anchorMark (s : Scanner) (token : String → Token) (text : List Char) :
    Except Fault Scanner := do
  let s ← s.saveKey
  let (name, rest) ← anchorName text
  return { s with keyAllowed := false }.takeUpTo rest (token name)

def tagMark (s : Scanner) : Except Fault Scanner := do
  let s ← s.saveKey
  let (token, rest) ← tagToken s.inFlow s.cursor.rest
  return { s with keyAllowed := false }.takeUpTo rest token

def block (s : Scanner) (isLiteral : Bool) (text : List Char) : Except Fault Scanner := do
  let s ← s.dropKey
  let (scalar, rest) ← blockScalar isLiteral s.indent text
  return { s with keyAllowed := true }.takeUpTo rest (.scalar (String.ofList scalar) false)

def quoted (s : Scanner) (text : List Char)
    (read : List Char → Except Fault (List Char × List Char)) : Except Fault Scanner := do
  let s ← s.saveKey
  let (scalar, rest) ← read text
  return { s with keyAllowed := false }.takeUpTo rest (.scalar (String.ofList scalar) false)

def plain (s : Scanner) : Except Fault Scanner := do
  let s ← s.saveKey
  let (scalar, lineEnded, rest) ←
    plainScalar s.inFlow (s.indent + 1).toNat [] .none s.cursor.column s.cursor.rest
  return { s with keyAllowed := lineEnded }.takeUpTo rest (.scalar (String.ofList scalar) true)

/-- The characters that start no plain scalar. -/
def isIndicator (c : Char) : Bool := "-?:,[]\x7b\x7d#&*!|>'\"%@\x60".toList.contains c

def startsPlain (s : Scanner) (c : Char) (rest : List Char) : Bool :=
  (!isIndicator c && !isSpacing c && !isBreak c) ||
    (c == '-' && (match rest with
      | next :: _ => !isSpacing next
      | [] => true)) ||
    (!s.inFlow && (c == '?' || c == ':') && !endsToken rest)

def token (s : Scanner) (c : Char) (rest : List Char) : Except Fault Scanner :=
  let atLineStart := s.cursor.column == 0
  if atLineStart && c == '%' then do
    let s ← s.documentLevel
    let (token, after) ← directiveToken rest
    return s.takeUpTo after token
  else if atLineStart && startsDocumentMark (c :: rest) then do
    let s ← s.documentLevel
    return s.takeMark 3 (if c == '-' then .documentStart else .documentEnd)
  else if c == '[' then s.openFlow .flowSequenceStart
  else if c == '\x7b' then s.openFlow .flowMappingStart
  else if c == ']' then s.closeFlow .flowSequenceEnd
  else if c == '\x7d' then s.closeFlow .flowMappingEnd
  else if c == ',' then s.flowEntry
  else if c == '-' && endsToken rest then s.blockEntry
  else if c == '?' && (s.inFlow || endsToken rest) then s.keyMark
  else if c == ':' && (s.inFlow || endsToken rest) then s.valueMark
  else if c == '*' then s.anchorMark .aliasName rest
  else if c == '&' then s.anchorMark .anchor rest
  else if c == '!' then s.tagMark
  else if c == '|' && !s.inFlow then s.block true rest
  else if c == '>' && !s.inFlow then s.block false rest
  else if c == '\'' then s.quoted rest (singleQuoted [] .none (s.cursor.column + 1))
  else if c == '"' then s.quoted rest (doubleQuoted [] .none (s.cursor.column + 1))
  else if s.startsPlain c rest then s.plain
  else .error (.unexpectedCharacter c)

def isByteOrderMark (c : Char) : Bool := c.toNat == 0xFEFF

/-- Past spacing, comments and line ends. A tab is spacing only where no indentation can start, and a
    byte order mark where a line starts. In block context a new line may start with a key. -/
def skipBlanks (inFlow inComment atLineStart keyAllowed : Bool) : List Char → Bool × List Char
  | [] => (keyAllowed, [])
  | c :: rest =>
    if isBreak c then skipBlanks inFlow false true (keyAllowed || !inFlow) rest
    else if inComment then skipBlanks inFlow true false keyAllowed rest
    else if c == ' ' || (c == '\t' && (inFlow || !keyAllowed)) || (atLineStart && isByteOrderMark c)
      then skipBlanks inFlow false false keyAllowed rest
    else if c == '#' then skipBlanks inFlow true false keyAllowed rest
    else (keyAllowed, c :: rest)

def toToken (s : Scanner) : Scanner :=
  let (keyAllowed, rest) :=
    skipBlanks s.inFlow false (s.cursor.column == 0) s.keyAllowed s.cursor.rest
  { s with keyAllowed := keyAllowed, cursor := s.cursor.moveTo rest }

/-- All tokens from here to the end of the stream. Each token takes at least one character. -/
def scan (s : Scanner) : Except Fault (List Token) := do
  let ready ← s.toToken.dropStaleKeys
  let s' := ready.closeBlocks ready.cursor.column
  match s'.cursor.rest with
  | [] =>
    let s' ← s'.documentLevel
    return (Token.streamEnd :: s'.tokens).reverse
  | c :: rest =>
    let after ← s'.token c rest
    if _shorter : after.cursor.rest.length < s.cursor.rest.length then after.scan
    else throw (.unexpectedCharacter c)
termination_by s.cursor.rest.length

end Scanner

def isAllowed (c : Char) : Bool :=
  let n := c.toNat
  n == 9 || n == 10 || n == 13 || (0x20 ≤ n && n ≤ 0x7E) || n == 0x85 ||
    (0xA0 ≤ n && n ≤ 0xFFFD) || 0x10000 ≤ n

def Token.ofText (text : List Char) : Except Fault (List Token) :=
  match text.find? fun c => !isAllowed c with
  | some c => .error (.controlCharacter c.toNat)
  | none => (Scanner.start text).scan

end DeviceConfig.Yaml
