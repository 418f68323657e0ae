import DeviceConfig.Json.Basic
import DeviceConfig.Value.Display

/-!
Values as JSON. Keys are sorted, and what JSON has no form for becomes a text.
-/

namespace DeviceConfig.Value

mutual

def toJson : Value → Json
  | null => .null
  | bool b => .bool b
  | int n => .int n.toInt
  | float x => .float x
  | string s => .string s
  | lambda code => .string code
  | id i => .string i.name
  | duration d => .string d.text
  | quantity x unit => .string (text (.quantity x unit))
  | list items => .array (toJsonItems items)
  | map entries => .object (Entries.sorted (toJsonEntries entries))

def toJsonItems : List Value → List Json
  | [] => []
  | item :: rest => item.toJson :: toJsonItems rest

def toJsonEntries : List (String × Value) → List (String × Json)
  | [] => []
  | (key, value) :: rest => (key, value.toJson) :: toJsonEntries rest

end

end DeviceConfig.Value
