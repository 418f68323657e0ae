import DeviceConfig.Automation.Action

/-!
Automations as code: a trigger, the object that connects it with actions, and the actions.
-/

namespace DeviceConfig.Automation

def type : CppType := .named "Automation"

/-- Makes the automation of a trigger and gives it the actions of a list. -/
def connect (id : ObjectId) (trigger : Cpp.Expr) (arg : CppType) (list : Node) :
    Build Cpp.Symbol := do
  let definition := Cpp.Expr.app.method "make_automation" [arg] [trigger]
  let symbol ← Build.bindGlobal id definition (some (instantiate "Automation" arg))
  let entries ← actions arg list.path list.value
  addActions (.reference symbol) "add_actions" entries
  return symbol

/-- The automation of a mapping that holds its identifier and, under `then`, its actions. -/
def build (trigger : Cpp.Expr) (arg : CppType) (node : Node) : Build Cpp.Symbol :=
  let id := (node.id? "automation_id").getD (.generated type)
  match node.get? "then" with
  | some list => connect id trigger arg list
  | none => Build.lacking node .actions

/-- An automation that is written as just its list of actions. -/
def ofActions (trigger : Cpp.Expr) (arg : CppType) (list : Node) : Build Cpp.Symbol :=
  connect (.generated type) trigger arg list

/-- One automation after the other, each with a trigger of its own. -/
def buildAll (trigger : CppType) (arg : CppType) (makeTrigger : Node → Cpp.Expr) :
    List Node → Build Unit
  | [] => return ()
  | node :: rest => do
    let id := (node.id? "trigger_id").getD (.generated trigger)
    let symbol ← Build.bindGlobal id (makeTrigger node) (some trigger)
    let _ ← build (.reference symbol) arg node
    buildAll trigger arg makeTrigger rest

def buildUnder (key : String) (trigger : CppType) (arg : CppType) (makeTrigger : Node → Cpp.Expr)
    (node : Node) : Build Unit :=
  match node.get? key with
  | some list => buildAll trigger arg makeTrigger list.items
  | none => return ()

end DeviceConfig.Automation
