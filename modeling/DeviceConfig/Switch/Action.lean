import DeviceConfig.Automation.Object

/-!
Actions that switch a switch, and conditions on its state.
-/

namespace DeviceConfig.Switch

def target (node : Node) : Build Cpp.Expr :=
  match node.id? "id" with
  | some id => Build.object id
  | none => Build.lacking node .switchId

/-- An action that the switch itself makes with one of its methods. -/
def stateAction (template factory : String) (arg : CppType) (node : Node) : Build Cpp.Expr := do
  let object ← target node
  Automation.bindNew template arg (object.method factory [arg] [])

def turnOn (arg : CppType) (node : Node) : Build Cpp.Expr :=
  stateAction "switch_::TurnOnAction" "make_turn_on_action" arg node

def turnOff (arg : CppType) (node : Node) : Build Cpp.Expr :=
  stateAction "switch_::TurnOffAction" "make_turn_off_action" arg node

def toggle (arg : CppType) (node : Node) : Build Cpp.Expr :=
  stateAction "switch_::ToggleAction" "make_toggle_action" arg node

/-- Whether the switch is on, or whether it is off. -/
def stateCondition (on : Bool) (arg : CppType) (node : Node) : Build Cpp.Expr := do
  let object ← target node
  let template := "switch_::SwitchCondition"
  Automation.bindNew template arg
    (.allocate (Automation.instantiate template arg) [object, .bool on])

end DeviceConfig.Switch
