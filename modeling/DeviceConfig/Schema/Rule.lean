import DeviceConfig.Automation.Kind
import DeviceConfig.Schema.Check
import DeviceConfig.Switch.Reference

/-!
The schemas of actions and conditions, which contain lists of themselves, and the checks that follow
from them.
-/

namespace DeviceConfig

namespace Schema

/-- A list of actions; a single action stands for the list of it. -/
def actions : Schema := .oneOrMany (.recursive .action)

def conditions : Schema := .oneOrMany (.recursive .condition)

/-- An automation for a trigger of this type with further options of the trigger. -/
def ofAutomation (trigger : CppType) (extra : FieldSet Schema) : Schema :=
  .automation ((((FieldSet.empty.withGeneratedId "trigger_id" trigger).withGeneratedId "automation_id"
    (.named "Automation")).required "then" actions).extend extra)

def ifFields : FieldSet Schema :=
  ((FieldSet.empty.required "condition" conditions).optional "then" actions).optional "else"
    actions

end Schema

def ActionKind.schema : ActionKind → Schema
  | delay => .templatable .duration
  | lambda => .lambda
  | branch => .fields Schema.ifFields
  | turnOn | turnOff | toggle => Switch.referenceSchema

def ConditionKind.schema : ConditionKind → Schema
  | every | either => Schema.conditions
  | lambda => .lambda
  | isOn | isOff => Switch.referenceSchema

def Rule.schema : Rule → Schema
  | .action =>
    .singleKey "action" (ActionKind.all.map fun kind => (kind.key, kind.schema))
  | .condition =>
    .singleKey "condition" (ConditionKind.all.map fun kind => (kind.key, kind.schema))
  | .actions => .actions

mutual

/-- How many collections stand inside one another in a value. -/
def Value.depth : Value → Nat
  | .list items => itemsDepth items + 1
  | .map entries => entriesDepth entries + 1
  | _ => 0

def itemsDepth : List Value → Nat
  | [] => 0
  | item :: rest => max item.depth (itemsDepth rest)

def entriesDepth : List (String × Value) → Nat
  | [] => 0
  | (_, value) :: rest => max value.depth (entriesDepth rest)

end

/-- The check of a rule that is applied no more than `bound` times inside itself. -/
def Rule.checkWithin : (bound : Nat) → Rule → Check
  | 0, _, node => .error [.of node.path .noneAccepts]
  | bound + 1, rule, node => rule.schema.checkWith (Rule.checkWithin bound) node

/-- The check of a rule. Of any two rules applied one inside the other, the inner one sees a part of
    the value that the outer one saw, unless the outer one only made a list of it; so twice the
    value's depth bounds how often rules are applied. -/
def Rule.check (rule : Rule) : Check := fun node =>
  Rule.checkWithin (2 * node.value.depth + 2) rule node

def Schema.check (schema : Schema) : Check := schema.checkWith Rule.check

end DeviceConfig
