import DeviceConfig.Decimal.Notation
import DeviceConfig.Text.Quoted
import DeviceConfig.Value.Basic

/-!
Values as short texts for messages.
-/

namespace DeviceConfig.Value

def boolText (b : Bool) : String := if b then "true" else "false"

/-- The text of a scalar that may stand where a text is asked for. -/
def scalarText? : Value → Option String
  | bool b => some (boolText b)
  | int n => some (toString n.toInt)
  | float x => some (Decimal.Notation.plain.text x)
  | string s => some s
  | _ => none

mutual

def text : Value → String
  | null => "null"
  | bool b => boolText b
  | int n => toString n.toInt
  | float x => Decimal.Notation.pointed.text x
  | string s => s
  | lambda code => "!lambda " ++ Text.quote code
  | id i => i.name
  | duration d => d.text
  | quantity x unit => Decimal.Notation.plain.text x ++ unit
  | list items => "[" ++ itemsText items ++ "]"
  | map entries => "\x7b" ++ entriesText entries ++ "\x7d"

def itemsText : List Value → String
  | [] => ""
  | [item] => item.text
  | item :: next :: rest => item.text ++ ", " ++ itemsText (next :: rest)

def entriesText : List (String × Value) → String
  | [] => ""
  | [(key, value)] => key ++ ": " ++ value.text
  | (key, value) :: next :: rest => key ++ ": " ++ value.text ++ ", " ++ entriesText (next :: rest)

end

end DeviceConfig.Value
