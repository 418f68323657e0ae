import DeviceConfig.Decimal.Reader
import DeviceConfig.Yaml.Basic

/-!
What a plain scalar stands for.
-/

namespace DeviceConfig.Yaml

def isNullText (text : String) : Bool := ["null", "Null", "NULL", "~"].contains text

def boolOfText? (text : String) : Option Bool :=
  if ["true", "True", "TRUE"].contains text then some true
  else if ["false", "False", "FALSE"].contains text then some false
  else none

/-- Several digits that start with a zero are a text and not a number. A sign may stand in front. -/
def isPaddedNumber (text : List Char) : Bool :=
  let digits := match text with
    | '-' :: rest | '+' :: rest => rest
    | rest => rest
  match digits with
  | '0' :: rest => !rest.isEmpty && rest.all Decimal.isDigit
  | _ => false

/-- Digits in base sixteen, eight or two after the mark of the base, or in base ten without one. -/
def magnitude? (text : List Char) : Option Nat :=
  match text with
  | '0' :: 'x' :: digits => Decimal.natural? 16 digits
  | '0' :: 'o' :: digits => Decimal.natural? 8 digits
  | '0' :: 'b' :: digits => Decimal.natural? 2 digits
  | digits => if isPaddedNumber digits then none else Decimal.natural? 10 digits

def wholeNumber? (text : List Char) : Option Int :=
  match text with
  | '-' :: rest => (magnitude? rest).map fun n => -(n : Int)
  | '+' :: rest => (magnitude? rest).map fun n => (n : Int)
  | rest => (magnitude? rest).map fun n => (n : Int)

/-- A number with a fraction or an exponent, an infinity or NaN. A number too large for 64 bits is
    none. -/
def floatOfText? (text : List Char) : Option Float :=
  let unsigned := String.ofList (match text with
    | '+' :: rest => rest
    | rest => rest)
  if [".inf", ".Inf", ".INF"].contains unsigned then some (1.0 / 0.0)
  else if ["-.inf", "-.Inf", "-.INF"].contains (String.ofList text) then some (-1.0 / 0.0)
  else if [".nan", ".NaN", ".NAN"].contains (String.ofList text) then some (0.0 / 0.0)
  else (Decimal.float? text).filter fun x => x.isFinite

end DeviceConfig.Yaml
