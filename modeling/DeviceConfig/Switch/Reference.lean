import DeviceConfig.Schema.Basic

/-!
Switches as actions and conditions refer to them.
-/

namespace DeviceConfig

namespace Schema

/-- A mapping that may be written as just the value under its `id`. -/
def withSimpleId (set : FieldSet Schema) : Schema := .allOf [.coerce .simpleId, .fields set]

end Schema

namespace Switch

def type : CppType := .named "switch_::Switch"

def referenceSchema : Schema :=
  .withSimpleId (FieldSet.empty.required "id" (.useId type))

end Switch

end DeviceConfig
