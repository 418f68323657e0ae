import DeviceConfig.Path
import DeviceConfig.Suggestion

/-!
What is wrong with a configuration document, and where.
-/

namespace DeviceConfig

/-- What is wrong with one value. `found` is what a message calls the kind of the value. -/
inductive Complaint where
  | notBoolean (found : String)
  | unreadableBoolean (text : String)
  | notInteger (found : String)
  | unreadableInteger (text : String)
  | notFloat (found : String)
  | unreadableFloat (text : String)
  | below (least : String)
  | above (most : String)
  | collectionAsText
  | missingText
  | lambdaAsText
  | notText (found : String)
  | notWrittenAsText (found : String)
  | emptyName
  | badNameCharacter (c : Char)
  | notIcon
  | notChoice (choices : List String)
  | unknownChoice (text : String) (choices : List String)
  | noTimeUnit (text : String)
  | unreadablePeriod (text : String)
  | notPeriod (found : String)
  | unreadableQuantity (unit text : String)
  | wrongUnit (text unit : String)
  | unknownUnitPrefix (sign text : String)
  | notQuantity (unit found : String)
  | notLambda (found : String)
  | unknownTarget (text : String)
  | notList (found : String)
  | noneAccepts
  | idNotText (found : String)
  | badId (name : String)
  | reservedId (name : String)
  | removed (message : String)
  | notMapping (found : String)
  | missingKey (key : String)
  | unknownKey (key : String) (known : List String)
  | exclusiveKeys (keys : List String)
  | unknownSelector (key name : String) (known : List String)
  | notSingle (kind found : String)
  | emptySingle (kind : String)
  | unknownEntry (kind key : String) (known : List String)
  | twoEntries (kind first second : String)
  | notAutomation (found : String)
  /-- Stands for several problems of one value. -/
  | several (count : Nat)
  | redefinedId (name : String) (first : Path)
  | undeclaredId (name : String) (declared : List String)
  | wrongIdType (name type expected : String)
  | notSections (found : String)
  | missingSection (key : String)
  | unknownSection (key : String) (known : List String)
  deriving Repr, DecidableEq

namespace Complaint

def inQuotes (text : String) : String := "'" ++ text ++ "'"

def message : Complaint → String
  | notBoolean found => s!"expected boolean value, got {found}"
  | unreadableBoolean text =>
    s!"expected boolean value, but cannot convert '{text}' to a boolean"
  | notInteger found => s!"expected integer, got {found}"
  | unreadableInteger text => s!"expected integer, but got '{text}'"
  | notFloat found => s!"expected float, got {found}"
  | unreadableFloat text => s!"expected float, but got '{text}'"
  | below least => s!"value must be at least {least}"
  | above most => s!"value must be at most {most}"
  | collectionAsText => "string value cannot be a mapping or a list"
  | missingText => "string value is missing"
  | lambdaAsText => "a lambda is not allowed here"
  | notText found => s!"expected string, got {found}"
  | notWrittenAsText found => s!"must be string, got {found}"
  | emptyName => "name must not be empty"
  | badNameCharacter c => s!"'{c}' is an invalid character for names"
  | notIcon => "icons should start with prefix 'mdi:'"
  | notChoice choices => "expected one of " ++ String.intercalate ", " choices
  | unknownChoice text choices =>
    s!"unknown value '{text}', valid options are " ++
      String.intercalate ", " (choices.map inQuotes)
  | noTimeUnit text => s!"don't know what '{text}' means as it has no time unit"
  | unreadablePeriod text => s!"invalid time period '{text}'"
  | notPeriod found => s!"expected a time period, got {found}"
  | unreadableQuantity unit text => s!"expected a {unit} value, got '{text}'"
  | wrongUnit text unit => s!"unit of '{text}' must be {unit}"
  | unknownUnitPrefix sign text => s!"unknown unit prefix '{sign}' in '{text}'"
  | notQuantity unit found => s!"expected a {unit} value, got {found}"
  | notLambda found => s!"lambda must be a string, got {found}"
  | unknownTarget text => s!"invalid platform '{text}'"
  | notList found => s!"expected a list, got {found}"
  | noneAccepts => "no validator accepted the value"
  | idNotText found => s!"an ID must be a string, got {found}"
  | badId name => s!"'{name}' is not a valid ID"
  | reservedId name => s!"'{name}' is a reserved word and can't be used as an ID"
  | removed message => message
  | notMapping found => s!"expected a mapping, got {found}"
  | missingKey key => s!"required key '{key}' not provided"
  | unknownKey key _ => s!"'{key}' is an invalid option"
  | exclusiveKeys keys =>
    "cannot specify " ++ String.intercalate " and " (keys.map inQuotes) ++ " at the same time"
  | unknownSelector key name _ => s!"unknown {key} '{name}'"
  | notSingle kind found => s!"expected a {kind} mapping, got {found}"
  | emptySingle kind => s!"expected a {kind}"
  | unknownEntry kind key _ => s!"unable to find {kind} with the name '{key}'"
  | twoEntries kind first second =>
    s!"cannot have two {kind}s in one item; key '{second}' overrides '{first}'"
  | notAutomation found => s!"expected an automation, got {found}"
  | several count => s!"invalid value ({count} errors)"
  | redefinedId name _ => s!"ID '{name}' redefined"
  | undeclaredId name _ => s!"couldn't find ID '{name}'"
  | wrongIdType name type expected =>
    s!"ID '{name}' of type {type} doesn't inherit from {expected}"
  | notSections found => s!"expected a mapping of sections, got {found}"
  | missingSection key => s!"required section '{key}' not provided"
  | unknownSection key _ => s!"component '{key}' not found"

def help? : Complaint → Option String
  | unreadableBoolean _ => some "use 'true' or 'false'"
  | notWrittenAsText _ => some "did you forget putting quotes around the value?"
  | badNameCharacter _ =>
    some "valid characters are lowercase letters, digits and underscores"
  | unknownChoice text choices =>
    (Suggestion.nearest? text choices 2).map fun meant => s!"did you mean '{meant}'?"
  | noTimeUnit text => some s!"did you mean '{text}s'?"
  | unreadablePeriod _ => some "use a number with a unit (us, ms, s, min, h, d) or HH:MM:SS"
  | unknownTarget _ => some "only ESP8266 and ESP32 are supported"
  | badId _ =>
    some "IDs may contain letters, digits and underscores and must not start with a digit"
  | reservedId _ => some "pick another ID, for example by adding a suffix such as '_1'"
  | unknownKey key known => some (Suggestion.help key known "options")
  | exclusiveKeys _ => some "these options are mutually exclusive; keep only one"
  | unknownSelector _ name known => some (Suggestion.help name known "platforms")
  | unknownEntry kind key known => some (Suggestion.help key known (kind ++ "s"))
  | twoEntries kind _ _ => some s!"did you forget to indent the block inside the {kind}?"
  | redefinedId name first => some s!"'{name}' was first declared at {first.text}"
  | undeclaredId name declared => some (Suggestion.help name declared "IDs")
  | wrongIdType _ _ _ => some "check that the ID points to the right kind of object"
  | missingSection _ => some "add a core section with at least name, platform and board"
  | unknownSection key known => some (Suggestion.help key known "components")
  | _ => none

end Complaint

/-- A complaint about the value at a path. When several problems of one value are put under one
    entry, they are its causes. -/
inductive Problem where
  | mk (path : Path) (complaint : Complaint) (causes : List Problem)
  deriving Repr

namespace Problem

def path : Problem → Path
  | mk path _ _ => path

def complaint : Problem → Complaint
  | mk _ complaint _ => complaint

def causes : Problem → List Problem
  | mk _ _ causes => causes

def of (path : Path) (complaint : Complaint) : Problem := mk path complaint []

def message (p : Problem) : String := p.complaint.message

def help? (p : Problem) : Option String := p.complaint.help?

def text (p : Problem) : String := p.path.text ++ ": " ++ p.message

/-- One entry for the problems of the value at `path`. A single problem stands for itself, so that its
    own path is kept. -/
def fold (path : Path) (problems : List Problem) : Problem :=
  match problems with
  | [problem] => problem
  | problems => mk path (.several problems.length) problems

mutual

/-- The problem and all its causes, each before its own causes. -/
def flatten : Problem → List Problem
  | mk path complaint causes => mk path complaint causes :: flattenAll causes

def flattenAll : List Problem → List Problem
  | [] => []
  | problem :: rest => problem.flatten ++ flattenAll rest

end

end Problem

end DeviceConfig
