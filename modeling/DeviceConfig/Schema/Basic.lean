import DeviceConfig.Node
import DeviceConfig.Problem

/-!
Schemas: what a value of the configuration may be, and what it becomes.
-/

namespace DeviceConfig

/-- Whether a key must be there, and what takes its place if it is not. -/
inductive Presence where
  | required
  | optional
  /-- Inserted where the key is missing, and then checked like a written value. -/
  | default (value : Value)
  /-- An identifier for an object of this type is made up where the key is missing. -/
  | generatedId (type : CppType)

/-- A key of a mapping and what is expected of its value; expectations are of type `σ`. -/
structure Field (σ : Type) where
  key : String
  presence : Presence
  expected : σ

/-- What is expected of a mapping. -/
structure FieldSet (σ : Type) where
  fields : List (Field σ)
  /-- Of each of these groups at most one key may be there. -/
  exclusive : List (List String)
  /-- Whether keys without a field are kept as they are. -/
  allowsExtra : Bool

namespace FieldSet

variable {σ : Type}

def empty : FieldSet σ := ⟨[], [], false⟩

def keys (set : FieldSet σ) : List String := set.fields.map (·.key)

/-- Puts a field in the place of the one with its key, or at the end. -/
def putField (field : Field σ) : List (Field σ) → List (Field σ)
  | [] => [field]
  | first :: rest => if first.key = field.key then field :: rest else first :: putField field rest

def put (set : FieldSet σ) (field : Field σ) : FieldSet σ :=
  { set with fields := putField field set.fields }

def required (set : FieldSet σ) (key : String) (expected : σ) : FieldSet σ :=
  set.put ⟨key, .required, expected⟩

def optional (set : FieldSet σ) (key : String) (expected : σ) : FieldSet σ :=
  set.put ⟨key, .optional, expected⟩

def withDefault (set : FieldSet σ) (key : String) (value : Value) (expected : σ) : FieldSet σ :=
  set.put ⟨key, .default value, expected⟩

def exclusiveKeys (set : FieldSet σ) (group : List String) : FieldSet σ :=
  { set with exclusive := set.exclusive ++ [group] }

def withExtra (set : FieldSet σ) : FieldSet σ := { set with allowsExtra := true }

/-- Both sets together; where both have a key, the second decides. -/
def extend (set other : FieldSet σ) : FieldSet σ :=
  ⟨other.fields.foldl (fun fields field => putField field fields) set.fields,
    set.exclusive ++ other.exclusive, set.allowsExtra || other.allowsExtra⟩

end FieldSet

/-- Readings of a scalar that only some keys have. -/
inductive Coercion where
  | icon
  /-- One of the supported chips under any of its names. -/
  | target
  /-- A mapping, or a value that stands for a mapping with this value under `id`. -/
  | simpleId
  deriving Repr, DecidableEq

/-- Schemas that contain themselves. -/
inductive Rule where
  | action
  | condition
  | actions
  deriving Repr, DecidableEq

inductive Schema where
  | any
  | boolean
  | int (least most : Option Int64)
  | float (least most : Option Float)
  /-- Any scalar, as text. -/
  | string
  /-- Only what was written as text. -/
  | writtenString
  /-- Lowercase letters, digits and underscores. -/
  | name
  /-- One of the choices in any case, which becomes the choice as it is listed. -/
  | oneOf (choices : List String)
  | duration
  | quantity (unit : String)
  | lambda
  /-- A lambda, or what the inner schema accepts. -/
  | templatable (inner : Schema)
  /-- A list; a single item stands for the list of it. -/
  | oneOrMany (inner : Schema)
  | listOf (inner : Schema)
  | fields (set : FieldSet Schema)
  /-- Each schema checks what the one before it made of the value. -/
  | allOf (steps : List Schema)
  /-- The first schema that accepts the value decides. -/
  | anyOf (options : List Schema)
  /-- The name of a new object of this type. -/
  | declareId (type : CppType)
  /-- The name of an object of this type that is declared elsewhere. -/
  | useId (type : CppType)
  /-- Nothing is accepted; the message says why. -/
  | invalid (message : String)
  | coerce (coercion : Coercion)
  /-- A mapping whose value under `key` chooses what is expected of it. -/
  | dispatch (key : String) (choices : List (String × FieldSet Schema))
  /-- A mapping with exactly one key, which must be one of the entries. -/
  | singleKey (kind : String) (entries : List (String × Schema))
  /-- A list of automations; a list of actions stands for one, and a mapping for a list of one. -/
  | automation (set : FieldSet Schema)
  | recursive (rule : Rule)

/-- The identifier under this key is made up where it is missing. -/
def FieldSet.withGeneratedId (set : FieldSet Schema) (key : String) (type : CppType) :
    FieldSet Schema :=
  set.put ⟨key, .generatedId type, .declareId type⟩

/-- What checking makes of a value: the value in normal form, or what is wrong with it. -/
abbrev Checked := Except (List Problem) Value

abbrev Check := Node → Checked

end DeviceConfig
