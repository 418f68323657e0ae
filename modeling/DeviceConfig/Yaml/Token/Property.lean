import DeviceConfig.Decimal.Reader
import DeviceConfig.Yaml.Token

/-!
Anchors, tags and directives as they stand in a stream. Each reader gives a token and the characters
after it.
-/

namespace DeviceConfig.Yaml

def anchorName (text : List Char) : Except Fault (String × List Char) :=
  let name := text.takeWhile isWordChar
  let rest := text.dropWhile isWordChar
  let ended := match rest with
    | c :: _ => endsToken rest || ['?', ':', ',', ']', '\x7d', '%', '@', '\x60'].contains c
    | [] => true
  if name.isEmpty || !ended then .error .badAnchor else .ok (String.ofList name, rest)

/-- The characters of a tag. Between angle brackets commas and square brackets belong to it too. -/
def isTagChar (inAngles : Bool) (c : Char) : Bool :=
  isWordChar c || ";/?:@&=+$.%!~*'()".toList.contains c ||
    (inAngles && (c == ',' || c == '[' || c == ']'))

def hexByte? (a b : Char) : Option Nat := Decimal.digitsValue? 16 0 [a, b]

/-- How many bytes a character has whose first byte is this one. -/
def sequenceLength? (first : Nat) : Option Nat :=
  if first < 0x80 then some 1
  else if first / 32 == 6 then some 2
  else if first / 16 == 14 then some 3
  else if first / 8 == 30 then some 4
  else none

/-- The least number of a character of this many bytes. -/
def leastCode (length : Nat) : Nat :=
  if length == 1 then 0 else if length == 2 then 0x80 else if length == 3 then 0x800 else 0x10000

/-- The character with this number. It has no other count of bytes than the one it needs. -/
def charOfBytes? (length code : Nat) : Option Char :=
  if leastCode length ≤ code && code.isValidChar then some (Char.ofNat code) else none

/-- The bits of a character's first byte that belong to its number. -/
def leadingBits (length first : Nat) : Nat :=
  if length == 1 then first else first % Nat.pow 2 (7 - length)

/-- Percent escapes of the bytes after a character's first one. -/
def continuation (code : Nat) : (count : Nat) → List Char → Except Fault (Nat × List Char)
  | 0, text => .ok (code, text)
  | count + 1, '%' :: a :: b :: rest =>
    match hexByte? a b with
    | some byte =>
      if byte / 64 == 2 then continuation (code * 64 + byte % 64) count rest
      else .error .badTag
    | none => .error .badTag
  | _ + 1, _ => .error .badTag

/-- What the percent escapes of a first byte and of those after it stand for. -/
def escapedChar (text : List Char) : Except Fault (Option Char × List Char) :=
  match text with
  | '%' :: a :: b :: rest =>
    match hexByte? a b with
    | some first =>
      match sequenceLength? first with
      | some length =>
        match continuation (leadingBits length first) (length - 1) rest with
        | .ok (code, rest) => .ok (charOfBytes? length code, rest)
        | .error fault => .error fault
      | none => .error .badTag
    | none => .error .badTag
  | _ => .error .badTag

/-- Percent escapes taken out of the characters of a tag. Each escape is as long as three
    characters, so the count of characters bounds the steps. -/
def unescapeTag : (bound : Nat) → List Char → Except Fault TagText
  | _, [] => .ok []
  | 0, _ => .error .badTag
  | bound + 1, c :: rest => do
    if c == '%' then
      let (meant, rest) ← escapedChar (c :: rest)
      let more ← unescapeTag bound rest
      return meant :: more
    else
      let more ← unescapeTag bound rest
      return some c :: more

/-- The characters of a tag after `start`, and what follows them. Together they are not empty. An
    escaped zero ends the tag. -/
def tagText (inAngles : Bool) (start text : List Char) : Except Fault (TagText × List Char) := do
  let body := text.takeWhile (isTagChar inAngles)
  if start.isEmpty && body.isEmpty then throw .badTag
  let meant ← unescapeTag body.length body
  let whole := (start.drop 1).map some ++ meant
  return (whole.takeWhile (· != some '\x00'), text.dropWhile (isTagChar inAngles))

/-- A handle: an exclamation mark, or a word between two of them. What only starts like one is given
    as far as it goes. -/
def tagHandle (text : List Char) : List Char × List Char :=
  match text with
  | '!' :: rest =>
    let word := rest.takeWhile isWordChar
    match rest.dropWhile isWordChar with
    | '!' :: rest => ('!' :: (word ++ ['!']), rest)
    | rest => ('!' :: word, rest)
  | rest => ([], rest)

/-- A tag, from its exclamation mark on. -/
def tagToken (inFlow : Bool) (text : List Char) : Except Fault (Token × List Char) := do
  let (handle, body, rest) ←
    match text with
    | '!' :: '<' :: rest => do
      let (body, rest) ← tagText true [] rest
      match rest with
      | '>' :: rest => pure ("", body, rest)
      | _ => throw Fault.badTag
    | _ => do
      let (handle, afterHandle) := tagHandle text
      if handle.length > 1 && handle.getLast? == some '!' then
        let (body, rest) ← tagText false [] afterHandle
        pure (String.ofList handle, body, rest)
      else
        let (body, rest) ← tagText false handle afterHandle
        pure (if body.isEmpty then ("", [some '!'], rest) else ("!", body, rest))
  if endsToken rest || (inFlow && rest.head? == some ',') then return (.tag handle body, rest)
  else throw .badTag

/-- Up to nine digits. -/
def versionNumber (text : List Char) : Except Fault (Nat × List Char) :=
  let digits := text.takeWhile Decimal.isDigit
  match Decimal.natural? 10 digits with
  | some n =>
    if digits.length ≤ 9 then .ok (n, text.dropWhile Decimal.isDigit) else .error .badDirective
  | none => .error .badDirective

/-- A directive, from after its percent sign on. Its line ends with it. -/
def directiveToken (text : List Char) : Except Fault (Token × List Char) := do
  let name := String.ofList (text.takeWhile isWordChar)
  let afterName := text.dropWhile isWordChar
  if name.isEmpty || !endsToken afterName then throw .badDirective
  let body := afterName.dropWhile isSpacing
  let (token, rest) ←
    if name == "YAML" then
      let (major, afterMajor) ← versionNumber body
      match afterMajor with
      | '.' :: afterPoint =>
        let (minor, rest) ← versionNumber afterPoint
        pure (Token.versionDirective major minor, rest)
      | _ => throw Fault.badDirective
    else if name == "TAG" then
      let (handle, afterHandle) := tagHandle body
      if !(handle == ['!'] || (handle.length > 1 && handle.getLast? == some '!')) then
        throw Fault.badDirective
      match afterHandle with
      | [] => throw Fault.badDirective
      | c :: _ =>
        if !isSpacing c then throw Fault.badDirective
        let (replacement, rest) ← tagText true [] (afterHandle.dropWhile isSpacing)
        if !endsToken rest then throw Fault.badDirective
        pure (Token.tagDirective (String.ofList handle) replacement, rest)
    else throw Fault.badDirective
  match rest.dropWhile isSpacing with
  | '#' :: comment => return (token, afterBreak (comment.dropWhile fun c => !isBreak c))
  | [] => return (token, [])
  | c :: rest => if isBreak c then return (token, afterBreak (c :: rest)) else throw .badDirective

end DeviceConfig.Yaml
