import DeviceConfig.Automation.Basic
import DeviceConfig.Switch.Schema

/-!
The section `switch` as code.
-/

namespace DeviceConfig.Switch

def triggerOf (trigger : CppType) (switch : Cpp.Expr) (_ : Node) : Cpp.Expr :=
  .allocate trigger [switch]

/-- The options that every switch may have, and its triggers. -/
def setUp (switch : Cpp.Expr) (node : Node) : Build Unit := do
  if let some inverted := node.bool? "inverted" then
    Build.evaluate (switch.call "set_inverted" [.bool inverted])
  if let some icon := node.string? "icon" then
    Build.evaluate (switch.call "set_icon" [.string icon])
  Automation.buildUnder "on_turn_on" turnOnTrigger .noArg (triggerOf turnOnTrigger switch) node
  Automation.buildUnder "on_turn_off" turnOffTrigger .noArg (triggerOf turnOffTrigger switch) node

/-- Makes a switch known to the application, and sets it up. -/
def register (switch : Cpp.Expr) (node : Node) : Build Unit := do
  Build.evaluate (Cpp.Expr.app.call "register_switch" [switch])
  setUp switch node

def require (node : Node) (key : String) : Build Node :=
  match node.get? key with
  | some value => return value
  | none => Build.lacking node (.missing key)

/-- The identifier of `entry`, which belongs to `node`. -/
def requireId (node entry : Node) : Build ObjectId :=
  match entry.id? "id" with
  | some id => return id
  | none => Build.lacking node (.missing "id")

/-- Binds each listed switch to the one at its position in the constructor. -/
def retrieve (node : Node) (constructor : Cpp.Expr) (position : Nat) :
    List Node → Build (List (Cpp.Expr × Node))
  | [] => return []
  | entry :: rest => do
    let id ← requireId node entry
    let definition := constructor.call "get_switch" [.int (Int64.ofNat position)]
    let symbol ← Build.bindGlobal id definition none
    let others ← retrieve node constructor (position + 1) rest
    return (.reference symbol, entry) :: others

/-- Names, registers and sets up the switches of a constructor. -/
def registerAll : List (Cpp.Expr × Node) → Build Unit
  | [] => return ()
  | (switch, entry) :: rest => do
    if let some name := entry.string? "name" then
      Build.evaluate (switch.call "set_name" [.string name])
    register switch entry
    registerAll rest

/-- Switches that a lambda makes. The constructor is bound before the lambda's body is compiled, and all
    switches before any of them is set up, so that each may refer to all others. -/
def buildCustom (node : Node) : Build Unit := do
  let lambda ← require node "lambda"
  let id ← requireId node node
  let switches ← require node "switches"
  let pending ← lambda.lambdaAhead [] (some type.pointer.stdVector)
  let symbol ← Build.bindGlobal id (.allocate customType [pending.reference]) none
  let _ ← pending.define
  let retrieved ← retrieve node (.reference symbol) 0 switches.items
  registerAll retrieved
  Build.addFlag "-DUSE_CUSTOM_SWITCH"

/-- The actions under a key, run by one of the switch's own triggers. -/
def connectActions (key trigger : String) (switch : Cpp.Expr) (node : Node) : Build Unit :=
  match node.get? key with
  | some list => do
    let _ ← Automation.ofActions (switch.call trigger []) .noArg list
    return ()
  | none => return ()

/-- A switch that is described by its lambda and its actions. -/
def buildTemplate (node : Node) : Build Unit := do
  let id ← requireId node node
  let name := (node.string? "name").getD ""
  let definition := Automation.register (.allocate templateType [.string name])
  let symbol ← Build.bindGlobal id definition none
  let switch : Cpp.Expr := .reference symbol
  register switch node
  if let some lambda := node.get? "lambda" then
    let state ← lambda.compileLambda [] (some (CppType.optional .bool))
    Build.evaluate (switch.call "set_state_lambda" [state])
  if let some optimistic := node.bool? "optimistic" then
    Build.evaluate (switch.call "set_optimistic" [.bool optimistic])
  connectActions "turn_on_action" "get_turn_on_trigger" switch node
  connectActions "turn_off_action" "get_turn_off_trigger" switch node
  Build.addFlag "-DUSE_TEMPLATE_SWITCH"

def Platform.build : Platform → Node → Build Unit
  | .custom => buildCustom
  | .template => buildTemplate

def buildEntry (node : Node) : Build Unit := do
  let name := (node.string? "platform").getD ""
  match Platform.ofName? name with
  | some platform =>
    Build.enter ("switch." ++ name)
    Build.addFlag "-DUSE_SWITCH"
    platform.build node
  | none => Build.lacking node (.knownPlatform name)

def buildEntries : List Node → Build Unit
  | [] => return ()
  | entry :: rest => do
    buildEntry entry
    buildEntries rest

def buildSection (node : Node) : Build Unit := buildEntries node.items

end DeviceConfig.Switch
