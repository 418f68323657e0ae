import DeviceConfig.Decimal.Notation
import DeviceConfig.Entries
import DeviceConfig.Text.Quoted

/-!
JSON values and their two written forms.
-/

namespace DeviceConfig

inductive Json where
  | null
  | bool (value : Bool)
  | int (value : Int)
  | float (value : Float)
  | string (text : String)
  | array (items : List Json)
  | object (entries : List (String × Json))
  deriving Inhabited

namespace Json

def fourHex (n : Nat) : List Char :=
  let digits := Text.hexDigits n
  List.replicate (4 - digits.length) '0' ++ digits

def escapeChar (c : Char) : List Char :=
  if c == '"' then ['\\', '"']
  else if c == '\\' then ['\\', '\\']
  else if c == '\n' then ['\\', 'n']
  else if c == '\r' then ['\\', 'r']
  else if c == '\t' then ['\\', 't']
  else if c.toNat == 8 then ['\\', 'b']
  else if c.toNat == 12 then ['\\', 'f']
  else if c.toNat < 32 then ['\\', 'u'] ++ fourHex c.toNat
  else [c]

def stringText (text : String) : String :=
  String.ofList ('"' :: text.toList.flatMap escapeChar ++ ['"'])

def scalarText : Json → String
  | bool b => if b then "true" else "false"
  | int n => toString n
  | float x => if x.isFinite then Decimal.Notation.json.text x else "null"
  | string s => stringText s
  | _ => "null"

mutual

/-- On one line, without spaces. -/
def compact : Json → String
  | array items => "[" ++ compactItems items ++ "]"
  | object entries => "\x7b" ++ compactEntries entries ++ "\x7d"
  | scalar => scalarText scalar

def compactItems : List Json → String
  | [] => ""
  | [item] => item.compact
  | item :: next :: rest => item.compact ++ "," ++ compactItems (next :: rest)

def compactEntries : List (String × Json) → String
  | [] => ""
  | [(key, value)] => stringText key ++ ":" ++ value.compact
  | (key, value) :: next :: rest =>
    stringText key ++ ":" ++ value.compact ++ "," ++ compactEntries (next :: rest)

end

def lineBreak (depth : Nat) : String := "\n" ++ String.ofList (List.replicate (2 * depth) ' ')

mutual

/-- One item to a line, indented by two spaces for each level. -/
def prettyAt (depth : Nat) : Json → String
  | array [] => "[]"
  | array items => "[" ++ prettyItems (depth + 1) items ++ lineBreak depth ++ "]"
  | object [] => "\x7b\x7d"
  | object entries => "\x7b" ++ prettyEntries (depth + 1) entries ++ lineBreak depth ++ "\x7d"
  | scalar => scalarText scalar

def prettyItems (depth : Nat) : List Json → String
  | [] => ""
  | [item] => lineBreak depth ++ item.prettyAt depth
  | item :: next :: rest =>
    lineBreak depth ++ item.prettyAt depth ++ "," ++ prettyItems depth (next :: rest)

def prettyEntries (depth : Nat) : List (String × Json) → String
  | [] => ""
  | [(key, value)] => lineBreak depth ++ stringText key ++ ": " ++ value.prettyAt depth
  | (key, value) :: next :: rest =>
    lineBreak depth ++ stringText key ++ ": " ++ value.prettyAt depth ++ "," ++
      prettyEntries depth (next :: rest)

end

def pretty (json : Json) : String := json.prettyAt 0

end Json

end DeviceConfig
