import DeviceConfig.Node
import DeviceConfig.Yaml.Document

/-!
Configuration values as YAML nodes and back.
-/

namespace DeviceConfig

/-- Why a text is not a configuration document. -/
inductive LoadFault where
  | notYaml (fault : Yaml.Fault)
  | unsupportedTag (tag : String)
  | lambdaNotText (kind : String)
  | keyNotScalar (kind : String)
  deriving Repr, DecidableEq

def LoadFault.message : LoadFault → String
  | notYaml fault => "YAML parse error: " ++ fault.message
  | unsupportedTag tag => s!"unsupported tag '{tag}'; only !lambda is allowed"
  | lambdaNotText kind => s!"!lambda must be applied to a string, found {kind}"
  | keyNotScalar kind => s!"mapping keys must be scalars, found {kind}"

namespace Value

mutual

/-- The YAML node of a value. Only lambdas have a tag; identifiers, durations and quantities are
    texts. -/
def toYaml : Value → Yaml
  | null => .null
  | bool b => .bool b
  | int n => .int n.toInt
  | float x => .float x
  | string s => .string s
  | lambda code => .tagged "!lambda" (.string code)
  | id i => .string i.name
  | duration d => .string d.text
  | quantity x unit => .string (text (.quantity x unit))
  | list items => .sequence (toYamlItems items)
  | map entries => .mapping (toYamlEntries entries)

def toYamlItems : List Value → List Yaml
  | [] => []
  | item :: rest => item.toYaml :: toYamlItems rest

def toYamlEntries : List (String × Value) → List (Yaml × Yaml)
  | [] => []
  | (key, value) :: rest => (.string key, value.toYaml) :: toYamlEntries rest

end

def keyOfYaml : Yaml → Except LoadFault String
  | .string s => .ok s
  | .bool b => .ok (boolText b)
  | .int n => .ok (Yaml.numberText (.int n))
  | .float x => .ok (Yaml.numberText (.float x))
  | other => .error (.keyNotScalar other.kindName)

mutual

/-- The value of a YAML node. Keys that become the same text set the same entry. -/
def ofYaml : Yaml → Except LoadFault Value
  | .null => .ok null
  | .bool b => .ok (bool b)
  | .int n =>
    .ok (match Decimal.word? n with
      | some word => int word
      | none => float (Float.ofInt n))
  | .float x => .ok (float x)
  | .string s => .ok (string s)
  | .sequence items => (ofYamlItems items).map list
  | .mapping entries => (ofYamlEntries [] entries).map map
  | .tagged tag node =>
    if (tag.toList.dropWhile (· == '!')) ≠ "lambda".toList then .error (.unsupportedTag tag)
    else
      match node with
      | .string code => .ok (lambda code)
      | other => .error (.lambdaNotText other.kindName)

def ofYamlItems : List Yaml → Except LoadFault (List Value)
  | [] => .ok []
  | item :: rest => do
    let item ← ofYaml item
    let rest ← ofYamlItems rest
    return item :: rest

def ofYamlEntries (before : Entries Value) : List (Yaml × Yaml) → Except LoadFault (Entries Value)
  | [] => .ok before
  | (key, value) :: rest => do
    let key ← keyOfYaml key
    let value ← ofYaml value
    ofYamlEntries (Entries.set key value before) rest

end

end Value

def Node.ofText (text : String) : Except LoadFault Node :=
  match Yaml.ofText text with
  | .error fault => .error (.notYaml fault)
  | .ok yaml => (Value.ofYaml yaml).map Node.atRoot

end DeviceConfig
