import DeviceConfig.Schema.Rule

/-!
What the section `switch` may hold: a list of switches, each of one of two platforms.
-/

namespace DeviceConfig.Switch

def customType : CppType := .named "switch_::CustomSwitchConstructor"

def templateType : CppType := .named "switch_::TemplateSwitch"

def turnOnTrigger : CppType := .named "switch_::SwitchTurnOnTrigger"

def turnOffTrigger : CppType := .named "switch_::SwitchTurnOffTrigger"

def fields : FieldSet Schema :=
  ((((((FieldSet.empty.withGeneratedId "id" type).required "name" .string).optional "icon"
    (.coerce .icon)).optional "inverted" .boolean).optional "on_turn_on"
    (.ofAutomation turnOnTrigger .empty)).optional "on_turn_off"
    (.ofAutomation turnOffTrigger .empty))

/-- Switches that come out of a lambda, which returns as many of them as are listed. -/
def customFields : FieldSet Schema :=
  ((FieldSet.empty.withGeneratedId "id" customType).required "lambda" .lambda).required "switches"
    (.oneOrMany (.fields fields))

/-- A switch whose state is told by a lambda and which is switched by actions. -/
def templateFields : FieldSet Schema :=
  ((((fields.withGeneratedId "id" templateType).optional "lambda" .lambda).optional "optimistic"
    .boolean).optional "turn_on_action" .actions).optional "turn_off_action" .actions

inductive Platform where
  | custom
  | template
  deriving Repr, DecidableEq

namespace Platform

def all : List Platform := [custom, template]

def name : Platform → String
  | custom => "custom"
  | template => "template"

def ofName? (name : String) : Option Platform := all.find? (·.name == name)

def fields : Platform → FieldSet Schema
  | custom => customFields
  | template => templateFields

end Platform

def sectionSchema : Schema :=
  .oneOrMany (.dispatch "platform" (Platform.all.map fun platform =>
    (platform.name, (FieldSet.empty.required "platform" .string).extend platform.fields)))

end DeviceConfig.Switch
