import DeviceConfig.Text.Case

/-!
The types of the generated program: a name, template arguments, and whether it is a pointer. Classes
stand in a fixed list with their ancestors, so that a reference can be checked against the type that
is expected of it.
-/

namespace DeviceConfig

inductive CppType where
  | mk (name : String) (args : List CppType) (isPointer : Bool)
  deriving Repr, Inhabited

namespace CppType

def name : CppType → String
  | mk name _ _ => name

def args : CppType → List CppType
  | mk _ args _ => args

def isPointer : CppType → Bool
  | mk _ _ isPointer => isPointer

/-- A type without arguments. -/
def named (name : String) : CppType := mk name [] false

def template (type : CppType) (args : List CppType) : CppType := mk type.name args type.isPointer

def pointer (type : CppType) : CppType := mk type.name type.args true

mutual

def decEq : (a b : CppType) → Decidable (a = b)
  | mk n xs p, mk m ys q =>
    if hn : n = m then
      if hp : p = q then
        match decEqList xs ys with
        | isTrue h => isTrue (by rw [hn, hp, h])
        | isFalse h => isFalse (fun e => h (by injection e))
      else isFalse (fun e => hp (by injection e))
    else isFalse (fun e => hn (by injection e))

def decEqList : (xs ys : List CppType) → Decidable (xs = ys)
  | [], [] => isTrue rfl
  | [], _ :: _ => isFalse (by simp)
  | _ :: _, [] => isFalse (by simp)
  | x :: xs, y :: ys =>
    match decEq x y with
    | isTrue hx =>
      match decEqList xs ys with
      | isTrue h => isTrue (by rw [hx, h])
      | isFalse h => isFalse (fun e => h (by injection e))
    | isFalse hx => isFalse (fun e => hx (by injection e))

end

instance : DecidableEq CppType := decEq

/-- Types that are known without being classes. -/
def scalars : List String :=
  ["void", "bool", "float", "double", "int", "int8_t", "int16_t", "int32_t", "uint8_t",
    "uint16_t", "uint32_t", "size_t", "char", "const char", "std::string", "NoArg"]

/-- Templates that take any known types. -/
def containers : List String := ["std::vector", "optional", "std::array"]

/-- The classes and all their ancestors, nearest first. -/
def classes : List (String × List String) :=
  [("Application", []),
    ("Nameable", []),
    ("Component", []),
    ("PollingComponent", ["Component"]),
    ("Trigger", []),
    ("Action", []),
    ("Condition", []),
    ("Automation", []),
    ("StartupTrigger", ["Trigger", "Component"]),
    ("ShutdownTrigger", ["Trigger"]),
    ("LoopTrigger", ["Trigger", "Component"]),
    ("DelayAction", ["Action", "Component"]),
    ("LambdaAction", ["Action"]),
    ("IfAction", ["Action"]),
    ("AndCondition", ["Condition"]),
    ("OrCondition", ["Condition"]),
    ("LambdaCondition", ["Condition"]),
    ("switch_::Switch", ["Nameable"]),
    ("switch_::CustomSwitchConstructor", []),
    ("switch_::TemplateSwitch", ["switch_::Switch", "Nameable", "Component"]),
    ("switch_::TurnOnAction", ["Action"]),
    ("switch_::TurnOffAction", ["Action"]),
    ("switch_::ToggleAction", ["Action"]),
    ("switch_::SwitchCondition", ["Condition"]),
    ("switch_::SwitchTurnOnTrigger", ["Trigger"]),
    ("switch_::SwitchTurnOffTrigger", ["Trigger"])]

def ancestors (type : CppType) : List String :=
  match classes.find? (·.1 == type.name) with
  | some (_, ancestors) => ancestors
  | none => []

/-- Whether a value of this type can stand where `expected` is asked for: the type itself, or an
    ancestor without arguments that is a pointer exactly if the type is one. -/
def descendsFrom (type expected : CppType) : Bool :=
  if type = expected then true
  else if type.isPointer ≠ expected.isPointer || !expected.args.isEmpty then false
  else type.ancestors.contains expected.name

/-- The characters of a name, with one underscore for each `::` and each space. -/
def hintChars : List Char → List Char
  | ':' :: ':' :: rest => '_' :: hintChars rest
  | ' ' :: rest => '_' :: hintChars rest
  | c :: rest => c :: hintChars rest
  | [] => []

/-- What an object of this type is called when nobody named it. -/
def nameHint (type : CppType) : String :=
  Text.lowercase (String.ofList (hintChars type.name.toList))

mutual

def text : CppType → String
  | mk name args isPointer =>
    name ++ (if args.isEmpty then "" else "<" ++ argsText args ++ ">") ++
      (if isPointer then " *" else "")

def argsText : List CppType → String
  | [] => ""
  | [type] => type.text
  | type :: next :: rest => type.text ++ ", " ++ argsText (next :: rest)

end

def noArg : CppType := named "NoArg"

def void : CppType := named "void"

def bool : CppType := named "bool"

def float : CppType := named "float"

def constCharPointer : CppType := (named "const char").pointer

def uint32 : CppType := named "uint32_t"

def stdString : CppType := named "std::string"

def optional (inner : CppType) : CppType := (named "optional").template [inner]

def stdVector (inner : CppType) : CppType := (named "std::vector").template [inner]

end CppType

end DeviceConfig
