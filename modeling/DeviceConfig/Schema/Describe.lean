import DeviceConfig.Schema.Basic
import DeviceConfig.Value.Display

/-!
Schemas as short texts.
-/

namespace DeviceConfig.Schema

def boundText : Option String → String
  | some text => "Some(" ++ text ++ ")"
  | none => "None"

def rangeText (least most : Option String) : String := boundText least ++ ".." ++ boundText most

def Coercion.name : Coercion → String
  | .icon => "icon"
  | .target => "platform"
  | .simpleId => "maybe_simple_id"

mutual

/-- The kind of the schema and what it was made with. Of a set of fields only the keys are shown. -/
def describe : Schema → String
  | any => "Any"
  | boolean => "Boolean"
  | int least most =>
    let shown (n : Int64) : String := toString n.toInt
    "Int(" ++ rangeText (least.map shown) (most.map shown) ++ ")"
  | float least most =>
    let shown := Decimal.Notation.debug.text
    "Float(" ++ rangeText (least.map shown) (most.map shown) ++ ")"
  | string => "String"
  | writtenString => "StringStrict"
  | name => "ValidName"
  | oneOf choices => "OneOf(" ++ Text.quoteAll choices ++ ")"
  | duration => "Duration"
  | quantity unit => "Quantity(" ++ unit ++ ")"
  | lambda => "Lambda"
  | templatable inner => "Templatable(" ++ describe inner ++ ")"
  | oneOrMany inner => "EnsureList(" ++ describe inner ++ ")"
  | listOf inner => "ListOf(" ++ describe inner ++ ")"
  | fields set => "Map(" ++ Text.quoteAll set.keys ++ ")"
  | allOf steps => "AllOf([" ++ describeAll steps ++ "])"
  | anyOf options => "AnyOf([" ++ describeAll options ++ "])"
  | declareId type => "DeclareId(" ++ type.text ++ ")"
  | useId type => "UseId(" ++ type.text ++ ")"
  | invalid message => "Invalid(" ++ Text.quote message ++ ")"
  | coerce coercion => "Coerce(" ++ Coercion.name coercion ++ ")"
  | dispatch key choices =>
    "Dispatch(" ++ key ++ " in " ++ Text.quoteAll (Entries.keys choices) ++ ")"
  | singleKey kind entries =>
    "SingleKey(" ++ kind ++ " in " ++ Text.quoteAll (Entries.keys entries) ++ ")"
  | automation set => "Automation(" ++ Text.quoteAll set.keys ++ ")"
  | recursive _ => "Lazy"

def describeAll : List Schema → String
  | [] => ""
  | [schema] => describe schema
  | schema :: next :: rest => describe schema ++ ", " ++ describeAll (next :: rest)

end

end DeviceConfig.Schema
