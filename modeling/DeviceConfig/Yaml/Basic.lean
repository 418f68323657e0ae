import DeviceConfig.Value.Display

/-!
YAML documents as trees, before and after their meaning as configuration values.
-/

namespace DeviceConfig

inductive Yaml where
  | null
  | bool (value : Bool)
  /-- A whole number of at most 64 bits, with a sign or without. -/
  | int (value : Int)
  | float (value : Float)
  | string (text : String)
  | sequence (items : List Yaml)
  | mapping (entries : List (Yaml × Yaml))
  /-- A node with a tag of the document's own. -/
  | tagged (tag : String) (node : Yaml)
  deriving Inhabited

namespace Yaml

def kindName : Yaml → String
  | null => "null"
  | bool _ => "boolean"
  | int _ | float _ => "number"
  | string _ => "string"
  | sequence _ => "sequence"
  | mapping _ => "mapping"
  | tagged _ _ => "tagged value"

mutual

/-- Equality as keys: there is one NaN, and the order of a mapping does not count. -/
def equal : Yaml → Yaml → Bool
  | null, null => true
  | bool a, bool b => a == b
  | int a, int b => a == b
  | float a, float b => a == b || (a.isNaN && b.isNaN)
  | string a, string b => a == b
  | sequence xs, sequence ys => equalLists xs ys
  | mapping xs, mapping ys => xs.length == ys.length && allIn xs ys
  | tagged s a, tagged t b => s == t && equal a b
  | _, _ => false

def equalLists : List Yaml → List Yaml → Bool
  | [], [] => true
  | x :: xs, y :: ys => equal x y && equalLists xs ys
  | _, _ => false

def allIn : List (Yaml × Yaml) → List (Yaml × Yaml) → Bool
  | [], _ => true
  | (k, x) :: xs, ys => hasEntry k x ys && allIn xs ys

def hasEntry (k x : Yaml) : List (Yaml × Yaml) → Bool
  | [] => false
  | (l, y) :: ys => (equal k l && equal x y) || hasEntry k x ys

end

/-- The text of a number as a mapping key. -/
def numberText : Yaml → String
  | int n => toString n
  | float x => Decimal.Notation.yaml.text x
  | _ => ""

end Yaml

end DeviceConfig
