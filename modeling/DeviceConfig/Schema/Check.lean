import DeviceConfig.Schema.FieldSet
import DeviceConfig.Schema.Scalar

/-!
Checking values against schemas.
-/

namespace DeviceConfig

namespace Check

def ofScalar (read : Value → Scalar.Read) : Check := fun node =>
  match read node.value with
  | .ok value => .ok value
  | .error complaint => .error [.of node.path complaint]

def gather (check : Check) : List Node → List Problem × List Value
  | [] => ([], [])
  | node :: rest =>
    let (problems, values) := gather check rest
    match check node with
    | .ok value => (problems, value :: values)
    | .error found => (Problem.fold node.path found :: problems, values)

/-- All nodes as a list, or all their problems. -/
def each (check : Check) (nodes : List Node) : Checked :=
  let (problems, values) := gather check nodes
  if problems.isEmpty then .ok (.list values) else .error problems

def items (check : Check) : Check := fun node => each check node.items

def templatable (check : Check) : Check := fun node =>
  match node.value with
  | .lambda code => .ok (.lambda code)
  | _ => check node

def oneOrMany (check : Check) : Check := fun node =>
  match node.value with
  | .list _ => items check node
  | .null => .ok (.list [])
  | value => items check ⟨node.path, .list [value]⟩

def listOf (check : Check) : Check := fun node =>
  match node.value with
  | .list _ => items check node
  | other => .error [.of node.path (.notList other.kindName)]

def allOf : List Check → Check
  | [] => fun node => .ok node.value
  | step :: rest => fun node =>
    match step node with
    | .ok value => allOf rest ⟨node.path, value⟩
    | .error problems => .error problems

/-- The first check that accepts decides; if none does, the problems of the first are shown. -/
def anyOf : List Check → Check
  | [] => fun node => .error [.of node.path .noneAccepts]
  | option :: rest => fun node =>
    match option node with
    | .ok value => .ok value
    | .error problems =>
      match (rest.findSome? fun check => (check node).toOption) with
      | some value => .ok value
      | none => .error problems

def find? {α : Type} (key : String) : List (String × α) → Option α := Entries.get? key

/-- The fields of the choice that the value under `key` names. -/
def dispatch (key : String) (choices : List (String × Check)) : Check := fun node =>
  match node.value with
  | .map entries =>
    match Entries.get? key entries with
    | none => .error [.of (node.path.key key) (.missingKey key)]
    | some selector =>
      let name := selector.scalarText?.getD ""
      match find? name choices with
      | some check => check node
      | none =>
        .error [.of (node.path.key key) (.unknownSelector key name (Entries.keys choices))]
  | other => .error [.of node.path (.notMapping other.kindName)]

def singleKey (kind : String) (choices : List (String × Check)) : Check := fun node =>
  match node.value with
  | .map [] => .error [.of node.path (.emptySingle kind)]
  | .map [(key, value)] =>
    let child : Node := ⟨node.path.key key, value⟩
    match find? key choices with
    | none => .error [.of child.path (.unknownEntry kind key (Entries.keys choices))]
    | some check =>
      match check child with
      | .ok value => .ok (.map [(key, value)])
      | .error problems => .error [Problem.fold child.path problems]
  | .map ((first, _) :: (second, _) :: _) =>
    .error [.of node.path (.twoEntries kind first second)]
  | other => .error [.of node.path (.notSingle kind other.kindName)]

/-- Whether a value is written as a mapping with the actions of an automation. -/
def isAutomation : Value → Bool
  | .map entries => Entries.contains "then" entries
  | _ => false

/-- The automations that a value stands for; none if it stands for no automation. -/
def automations? (node : Node) : Option (List Node) :=
  let wrapped : List Node := [⟨node.path, .map [("then", node.value)]⟩]
  match node.value with
  | .list values =>
    some (if !values.isEmpty && values.all isAutomation then node.items else wrapped)
  | .map entries =>
    some (if isAutomation (.map entries) then [⟨node.path.index 0, node.value⟩] else wrapped)
  | _ => none

def automation (check : Check) : Check := fun node =>
  match automations? node with
  | some nodes => each check nodes
  | none => .error [.of node.path (.notAutomation node.value.kindName)]

end Check

namespace Schema

mutual

/-- The check of a schema, given those of the recursive rules. -/
def checkWith (rules : Rule → Check) : Schema → Check
  | any => fun node => .ok node.value
  | boolean => .ofScalar Scalar.boolean
  | int least most => .ofScalar (Scalar.int least most)
  | float least most => .ofScalar (Scalar.float least most)
  | string => .ofScalar Scalar.string
  | writtenString => .ofScalar Scalar.writtenString
  | name => .ofScalar Scalar.name
  | oneOf choices => .ofScalar (Scalar.oneOf choices)
  | duration => .ofScalar Scalar.duration
  | quantity unit => .ofScalar (Scalar.quantity unit)
  | lambda => .ofScalar Scalar.lambda
  | templatable inner => .templatable (checkWith rules inner)
  | oneOrMany inner => .oneOrMany (checkWith rules inner)
  | listOf inner => .listOf (checkWith rules inner)
  | fields ⟨known, exclusive, extra⟩ => FieldSet.check ⟨fieldChecks rules known, exclusive, extra⟩
  | allOf steps => .allOf (checks rules steps)
  | anyOf options => .anyOf (checks rules options)
  | declareId type => .ofScalar (Scalar.identifier type .declared)
  | useId type => .ofScalar (Scalar.identifier type .used)
  | invalid message => fun node => .error [.of node.path (.removed message)]
  | coerce coercion => .ofScalar (Scalar.coerce coercion)
  | dispatch key choices => .dispatch key (choiceChecks rules choices)
  | singleKey kind entries => .singleKey kind (entryChecks rules entries)
  | automation ⟨known, exclusive, extra⟩ =>
    .automation (FieldSet.check ⟨fieldChecks rules known, exclusive, extra⟩)
  | recursive rule => rules rule

def checks (rules : Rule → Check) : List Schema → List Check
  | [] => []
  | schema :: rest => checkWith rules schema :: checks rules rest

def fieldChecks (rules : Rule → Check) : List (Field Schema) → List (Field Check)
  | [] => []
  | ⟨key, presence, schema⟩ :: rest =>
    ⟨key, presence, checkWith rules schema⟩ :: fieldChecks rules rest

def entryChecks (rules : Rule → Check) : List (String × Schema) → List (String × Check)
  | [] => []
  | (key, schema) :: rest => (key, checkWith rules schema) :: entryChecks rules rest

def choiceChecks (rules : Rule → Check) :
    List (String × FieldSet Schema) → List (String × Check)
  | [] => []
  | (key, ⟨known, exclusive, extra⟩) :: rest =>
    (key, FieldSet.check ⟨fieldChecks rules known, exclusive, extra⟩) :: choiceChecks rules rest

end

end Schema

end DeviceConfig
