import DeviceConfig.Lambda.Compile

/-!
Objects that automations are made of. A trigger hands one argument to its actions; triggers, actions and
conditions are class templates over the type of that argument.
-/

namespace DeviceConfig.Automation

/-- The class template for this type of argument. -/
def instantiate (template : String) (arg : CppType) : CppType := (CppType.named template).template [arg]

/-- The parameters of the lambdas that receive the argument. -/
def parameters (arg : CppType) : List Cpp.Parameter := [⟨"x", arg⟩]

def bindNew (template : String) (arg : CppType) (definition : Cpp.Expr) : Build Cpp.Expr := do
  let hint := (CppType.named template).nameHint
  let symbol ← Build.declare hint (instantiate template arg) .pointer
  Build.bind symbol definition
  return .reference symbol

def register (component : Cpp.Expr) : Cpp.Expr := Cpp.Expr.app.call "register_component" [component]

end DeviceConfig.Automation
