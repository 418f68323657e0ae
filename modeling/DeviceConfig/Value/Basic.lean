import DeviceConfig.CppType.Basic
import DeviceConfig.Entries
import DeviceConfig.Value.Duration

/-!
Configuration values. A document is read into nulls, booleans, numbers, texts, lambdas, lists and
mappings; validation puts identifiers, durations and quantities in the place of texts.
-/

namespace DeviceConfig

/-- How an identifier came into the configuration. -/
inductive IdRole where
  /-- The user named an object. -/
  | declared
  /-- The user left the object without a name. -/
  | generated
  /-- The user refers to an object. -/
  | used
  deriving Repr, DecidableEq

/-- The name of an object, with the type that the object has or is expected to have. -/
structure ObjectId where
  name : String
  type : CppType
  role : IdRole
  deriving Repr, DecidableEq

namespace ObjectId

def declared (name : String) (type : CppType) : ObjectId := ⟨name, type, .declared⟩

def generated (type : CppType) : ObjectId := ⟨type.nameHint, type, .generated⟩

def used (name : String) (type : CppType) : ObjectId := ⟨name, type, .used⟩

end ObjectId

inductive Value where
  | null
  | bool (value : Bool)
  | int (value : Int64)
  | float (value : Float)
  | string (text : String)
  /-- Code of the generated program, written by the user. -/
  | lambda (code : String)
  | id (id : ObjectId)
  | duration (period : Duration)
  /-- A number with a physical unit. -/
  | quantity (value : Float) (unit : String)
  | list (items : List Value)
  | map (entries : List (String × Value))
  deriving Inhabited

namespace Value

/-- What a message calls a value of this kind. -/
def kindName : Value → String
  | null => "null"
  | bool _ => "boolean"
  | int _ => "integer"
  | float _ => "float"
  | string _ => "string"
  | lambda _ => "lambda"
  | id _ => "id"
  | duration _ => "duration"
  | quantity _ _ => "quantity"
  | list _ => "list"
  | map _ => "mapping"

def isNull : Value → Bool
  | null => true
  | _ => false

def bool? : Value → Option Bool
  | bool b => some b
  | _ => none

def int? : Value → Option Int64
  | int n => some n
  | _ => none

def number? : Value → Option Float
  | int n => some n.toFloat
  | float x => some x
  | _ => none

def string? : Value → Option String
  | string s => some s
  | _ => none

def lambda? : Value → Option String
  | lambda code => some code
  | _ => none

def id? : Value → Option ObjectId
  | id i => some i
  | _ => none

def duration? : Value → Option Duration
  | duration d => some d
  | _ => none

def list? : Value → Option (List Value)
  | list items => some items
  | _ => none

def map? : Value → Option (Entries Value)
  | map entries => some entries
  | _ => none

mutual

/-- Equality of values: numbers compare as numbers, so that no NaN equals anything, and the order of
    a mapping does not count. -/
def equal : Value → Value → Bool
  | null, null => true
  | bool a, bool b => a == b
  | int a, int b => a == b
  | float a, float b => a == b
  | string a, string b => a == b
  | lambda a, lambda b => a == b
  | id a, id b => a == b
  | duration a, duration b => a == b
  | quantity x u, quantity y v => x == y && u == v
  | list xs, list ys => equalLists xs ys
  | map xs, map ys => xs.length == ys.length && allIn xs ys
  | _, _ => false

def equalLists : List Value → List Value → Bool
  | [], [] => true
  | x :: xs, y :: ys => equal x y && equalLists xs ys
  | _, _ => false

def allIn : List (String × Value) → List (String × Value) → Bool
  | [], _ => true
  | (k, x) :: xs, ys =>
    (match Entries.get? k ys with
      | some y => equal x y
      | none => false) && allIn xs ys

end

instance : BEq Value := ⟨equal⟩

end Value

end DeviceConfig
