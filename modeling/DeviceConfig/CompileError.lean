import DeviceConfig.Lambda.Fault
import DeviceConfig.Problem
import DeviceConfig.Yaml.Decode

/-!
Why a configuration does not become a program.
-/

namespace DeviceConfig

/-- The types of a lambda's parameters and of its result. -/
structure Signature where
  parameters : List CppType
  result : Option CppType
  deriving Repr, DecidableEq

namespace Signature

def text (s : Signature) : String :=
  let parameters := "(" ++ String.intercalate ", " (s.parameters.map CppType.text) ++ ")"
  match s.result with
  | some type => parameters ++ " -> " ++ type.text
  | none => parameters

end Signature

/-- What a value lacks that code is made from. Checked documents lack nothing. -/
inductive Lack where
  | missing (key : String)
  | deviceName
  | actions
  | switchId
  | knownPlatform (name : String)
  /-- No entry where one entry names the kind of action or condition. -/
  | entry (kind : String)
  | knownEntry (kind key : String)
  | duration (found : String)
  | lambda (found : String)
  deriving Repr, DecidableEq

def Lack.message : Lack → String
  | missing key => s!"missing '{key}'"
  | deviceName => "core has no name"
  | actions => "automation has no 'then'"
  | switchId => "no switch ID"
  | knownPlatform name => s!"unknown switch platform '{name}'"
  | entry kind => s!"expected a {kind}"
  | knownEntry kind key => s!"unknown {kind} '{key}'"
  | duration found => s!"expected a duration, got {found}"
  | lambda found => s!"expected a lambda, got {found}"

/-- Why a name cannot be written. -/
inductive RenderFault where
  | undefined
  | selfReference
  | usedBeforeDefinition
  deriving Repr, DecidableEq

def RenderFault.message : RenderFault → String
  | undefined => "declared but never defined"
  | selfReference => "inline definition refers to itself"
  | usedBeforeDefinition => "used before its definition"

inductive CompileError where
  | unreadable (fault : LoadFault)
  | lacking (path : Path) (lack : Lack)
  | noComponent (key : String)
  | notLiteral
  | invalid (problems : List Problem)
  /-- `declared` are the names that could have been meant. -/
  | undeclared (name component : String) (declared : List String)
  | redefined (name component : String)
  | badLambda (source : String) (fault : Lambda.Fault)
  | wrongSignature (path : Path) (expected found : Signature)
  | unrenderable (name component : String) (fault : RenderFault)
  /-- Files could not be read or written. -/
  | files (message : String)
  deriving Repr

namespace CompileError

def unreadableText : String := "failed to parse configuration: "

def message : CompileError → String
  | unreadable fault => unreadableText ++ fault.message
  | lacking path lack => unreadableText ++ path.text ++ ": " ++ lack.message
  | noComponent key => unreadableText ++ s!"component '{key}' not found"
  | notLiteral => unreadableText ++ "not a literal"
  | invalid problems =>
    let ending := if problems.length = 1 then "" else "s"
    s!"invalid configuration ({problems.length} error{ending})"
  | undeclared name _ _ => s!"undeclared identifier '{name}'"
  | redefined name _ => s!"identifier '{name}' is defined twice"
  | badLambda _ fault => "invalid lambda: " ++ fault.cause.message
  | wrongSignature path _ _ => s!"argument type mismatch at {path.text}"
  | unrenderable name _ _ => s!"cannot render identifier '{name}'"
  | files message => "I/O error: " ++ message

/-- The number under which the error is documented. -/
def code? : CompileError → Option String
  | unreadable _ | lacking _ _ | noComponent _ | notLiteral => some "E0101"
  | invalid _ => some "E0200"
  | undeclared _ _ _ => some "E0301"
  | redefined _ _ => some "E0302"
  | badLambda _ _ => some "E0401"
  | wrongSignature _ _ _ => some "E0402"
  | unrenderable _ _ _ => some "E0501"
  | files _ => none

def help? : CompileError → Option String
  | unreadable _ | lacking _ _ | noComponent _ | notLiteral => none
  | invalid _ => some "fix all configuration errors listed below"
  | undeclared name _ declared => some (Suggestion.help name declared "identifiers")
  | redefined name component =>
    some s!"'{name}' already had a definition when {component} defined it again"
  | badLambda _ _ =>
    some ("write a plain body, or a header such as: (float x) -> bool " ++
      "followed by a braced body")
  | wrongSignature _ expected found =>
    some ("this trigger expects a lambda of type " ++ expected.text ++ " but it is written as " ++
      found.text)
  | unrenderable _ component fault =>
    some s!"{fault.message} (while generating {component})"
  | files _ => none

end CompileError

end DeviceConfig
