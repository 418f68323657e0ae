import DeviceConfig.Text.CaseTable

/-!
Full Unicode case mapping of a text, independent of language.
-/

namespace DeviceConfig.Text

def shiftCode (code : Nat) (offset : Int) : Char := Char.ofNat (code + offset).toNat

def mapByRuns (runs : List CaseRun) (c : Char) : Char :=
  match runs.find? (·.covers c.toNat) with
  | some run => shiftCode c.toNat run.offset
  | none => c

/-- The lowercase form of one character, regardless of what stands around it. -/
def lowercaseChar (c : Char) : List Char :=
  if c.toNat < 128 then [c.toLower]
  else if c.toNat == 0x130 then ['i', Char.ofNat 0x307]
  else [mapByRuns lowercaseRuns c]

def uppercaseChar (c : Char) : List Char :=
  if c.toNat < 128 then [c.toUpper]
  else
    match uppercaseSequences.find? (·.1 == c.toNat) with
    | some (_, codes) => codes.map Char.ofNat
    | none => [mapByRuns uppercaseRuns c]

def isCased (c : Char) : Bool :=
  c.isAlpha || (128 ≤ c.toNat && inRanges casedRanges c.toNat)

def isCaseIgnorable (c : Char) : Bool := inRanges caseIgnorableRanges c.toNat

/-- Whether the first character that case mapping does not skip is a cased one. -/
def startsCased (text : List Char) : Bool :=
  match text.dropWhile isCaseIgnorable with
  | c :: _ => isCased c
  | [] => false

/-- Lowercase of `text`, where `before` holds the characters in front of it, nearest first. A capital
    sigma that ends a word has a form of its own. -/
def lowercaseAfter (before : List Char) : List Char → List Char
  | [] => []
  | c :: rest =>
    let mapped :=
      if c.toNat == 0x3A3 then
        if startsCased before && !startsCased rest then [Char.ofNat 0x3C2] else [Char.ofNat 0x3C3]
      else lowercaseChar c
    mapped ++ lowercaseAfter (c :: before) rest

def lowercase (text : String) : String := String.ofList (lowercaseAfter [] text.toList)

def uppercase (text : String) : String := String.ofList (text.toList.flatMap uppercaseChar)

def equalIgnoringAsciiCase (a b : String) : Bool :=
  a.toList.map Char.toLower == b.toList.map Char.toLower

end DeviceConfig.Text
