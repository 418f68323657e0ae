import DeviceConfig.Automation.Kind
import DeviceConfig.Switch.Action

/-!
Lists of actions and of conditions as code. Every entry becomes one object, bound before the statement
that uses it; what an entry contains comes before the entry itself, but for the actions of a branch,
which are added to it afterwards.
-/

namespace DeviceConfig.Automation

def millisecond : Nat := 1000000

/-- The number of whole milliseconds, in the words of the program. -/
def delayLiteral (path : Path) : Value → Except CompileError Cpp.Expr
  | .duration period => .ok (.int (Int64.ofNat (period.nanoseconds / millisecond)))
  | other => .error (.lacking path (.duration other.kindName))

def delay (arg : CppType) (node : Node) : Build Cpp.Expr := do
  let object : Cpp.Expr := .allocate (instantiate "DelayAction" arg) []
  let action ← bindNew "DelayAction" arg (register object)
  let period ← node.compileTemplatable (parameters arg) (some .uint32) (delayLiteral node.path)
  Build.evaluate (action.call "set_delay" [period])
  return action

def lambdaAction (arg : CppType) (node : Node) : Build Cpp.Expr := do
  let code ← node.compileLambda (parameters arg) (some .void)
  bindNew "LambdaAction" arg (.allocate (instantiate "LambdaAction" arg) [code])

def lambdaCondition (arg : CppType) (node : Node) : Build Cpp.Expr := do
  let code ← node.compileLambda (parameters arg) (some .bool)
  bindNew "LambdaCondition" arg (.allocate (instantiate "LambdaCondition" arg) [code])

/-- Adds actions to an object, if there are any. -/
def addActions (object : Cpp.Expr) (method : String) (actions : List Cpp.Expr) : Build Unit :=
  if actions.isEmpty then return () else Build.evaluate (object.call method [.aggregate actions])

/-- An object that is made of other objects. -/
def combination (template : String) (arg : CppType) (parts : List Cpp.Expr) : Build Cpp.Expr :=
  bindNew template arg (.allocate (instantiate template arg) [.aggregate parts])

mutual

/-- The conditions of a list, in order; what is no list has none. -/
def conditions (arg : CppType) (path : Path) : Value → Build (List Cpp.Expr)
  | .list items => conditionItems arg path 0 items
  | _ => return []

def conditionItems (arg : CppType) (path : Path) (position : Nat) :
    List Value → Build (List Cpp.Expr)
  | [] => return []
  | item :: rest => do
    let first ← condition arg (path.index position) item
    let others ← conditionItems arg path (position + 1) rest
    return first :: others

/-- The condition that the first key of a mapping names. -/
def condition (arg : CppType) (path : Path) : Value → Build Cpp.Expr
  | .map ((key, config) :: _) =>
    let place := path.key key
    match ConditionKind.ofKey? key with
    | some .every => do
      let parts ← conditions arg place config
      combination "AndCondition" arg parts
    | some .either => do
      let parts ← conditions arg place config
      combination "OrCondition" arg parts
    | some .lambda => lambdaCondition arg ⟨place, config⟩
    | some .isOn => Switch.stateCondition true arg ⟨place, config⟩
    | some .isOff => Switch.stateCondition false arg ⟨place, config⟩
    | none => throw (.lacking path (.knownEntry "condition" key))
  | _ => throw (.lacking path (.entry "condition"))

end

def conditionsUnder (key : String) (arg : CppType) (path : Path) (entries : Entries Value) :
    Build (List Cpp.Expr) :=
  match Entries.get? key entries with
  | some value => conditions arg (path.key key) value
  | none => return []

mutual

def actions (arg : CppType) (path : Path) : Value → Build (List Cpp.Expr)
  | .list items => actionItems arg path 0 items
  | _ => return []

def actionItems (arg : CppType) (path : Path) (position : Nat) :
    List Value → Build (List Cpp.Expr)
  | [] => return []
  | item :: rest => do
    let first ← action arg (path.index position) item
    let others ← actionItems arg path (position + 1) rest
    return first :: others

def action (arg : CppType) (path : Path) : Value → Build Cpp.Expr
  | .map ((key, config) :: _) =>
    let place := path.key key
    match ActionKind.ofKey? key with
    | some .delay => delay arg ⟨place, config⟩
    | some .lambda => lambdaAction arg ⟨place, config⟩
    | some .branch => branch arg place config
    | some .turnOn => Switch.turnOn arg ⟨place, config⟩
    | some .turnOff => Switch.turnOff arg ⟨place, config⟩
    | some .toggle => Switch.toggle arg ⟨place, config⟩
    | none => throw (.lacking path (.knownEntry "action" key))
  | _ => throw (.lacking path (.entry "action"))

def branch (arg : CppType) (path : Path) : Value → Build Cpp.Expr
  | .map entries => do
    let parts ← conditionsUnder "condition" arg path entries
    let object ← combination "IfAction" arg parts
    let yes ← actionsUnder "then" arg path entries
    addActions object "add_then" yes
    let no ← actionsUnder "else" arg path entries
    addActions object "add_else" no
    return object
  | _ => combination "IfAction" arg []

def actionsUnder (key : String) (arg : CppType) (path : Path) :
    List (String × Value) → Build (List Cpp.Expr)
  | [] => return []
  | (k, value) :: rest =>
    if k == key then actions arg (path.key key) value else actionsUnder key arg path rest

end

end DeviceConfig.Automation
