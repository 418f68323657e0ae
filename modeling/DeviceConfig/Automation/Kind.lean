/-!
The actions and conditions that automations are made of, and the keys that name them.
-/

namespace DeviceConfig

inductive ActionKind where
  | delay
  | lambda
  | branch
  | turnOn
  | turnOff
  | toggle
  deriving Repr, DecidableEq

namespace ActionKind

def all : List ActionKind := [delay, lambda, branch, turnOn, turnOff, toggle]

def key : ActionKind → String
  | delay => "delay"
  | lambda => "lambda"
  | branch => "if"
  | turnOn => "switch.turn_on"
  | turnOff => "switch.turn_off"
  | toggle => "switch.toggle"

def ofKey? (key : String) : Option ActionKind := all.find? (·.key == key)

end ActionKind

inductive ConditionKind where
  /-- All of a list of conditions. -/
  | every
  /-- One of a list of conditions. -/
  | either
  | lambda
  | isOn
  | isOff
  deriving Repr, DecidableEq

namespace ConditionKind

def all : List ConditionKind := [every, either, lambda, isOn, isOff]

def key : ConditionKind → String
  | every => "and"
  | either => "or"
  | lambda => "lambda"
  | isOn => "switch.is_on"
  | isOff => "switch.is_off"

def ofKey? (key : String) : Option ConditionKind := all.find? (·.key == key)

end ConditionKind

end DeviceConfig
