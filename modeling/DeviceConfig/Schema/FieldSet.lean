import DeviceConfig.Schema.Basic

/-!
Checking a mapping against a set of fields whose expectations are checks. All keys are checked, and
each gives its own problem; the order is that of exclusive groups, of the keys of the mapping, and of
the fields that are missing.
-/

namespace DeviceConfig.FieldSet

variable {σ : Type}

def find? (key : String) : List (Field σ) → Option (Field σ)
  | [] => none
  | field :: rest => if field.key = key then some field else find? key rest

/-- Problems, and entries of the mapping in normal form. -/
structure Outcome where
  problems : List Problem
  entries : Entries Value

namespace Outcome

def none : Outcome := ⟨[], []⟩

def problem (p : Problem) : Outcome := ⟨[p], []⟩

def entry (key : String) (value : Value) : Outcome := ⟨[], [(key, value)]⟩

def append (a b : Outcome) : Outcome := ⟨a.problems ++ b.problems, a.entries ++ b.entries⟩

/-- The value of a key as checked; its problems become one. -/
def ofChecked (key : String) (path : Path) : Checked → Outcome
  | .ok value => entry key value
  | .error problems => problem (Problem.fold path problems)

def all : List Outcome → Outcome
  | [] => none
  | first :: rest => first.append (all rest)

end Outcome

def presentKeys (group : List String) (entries : Entries Value) : List String :=
  group.filter fun key => Entries.contains key entries

def checkGroup (path : Path) (entries : Entries Value) (group : List String) : Outcome :=
  let present := presentKeys group entries
  if 1 < present.length then .problem (.of path (.exclusiveKeys present)) else .none

def checkEntry (set : FieldSet Check) (path : Path) (key : String) (value : Value) : Outcome :=
  let child : Node := ⟨path.key key, value⟩
  match find? key set.fields with
  | some field => .ofChecked key child.path (field.expected child)
  | none =>
    if set.allowsExtra then .entry key value
    else .problem (.of child.path (.unknownKey key set.keys))

/-- What a field gives to a mapping without its key. -/
def fillField (path : Path) (field : Field Check) : Outcome :=
  let place := path.key field.key
  match field.presence with
  | .required => .problem (.of place (.missingKey field.key))
  | .optional => .none
  | .default value => .ofChecked field.key place (field.expected ⟨place, value⟩)
  | .generatedId type => .entry field.key (.id (.generated type))

def checkEntries (set : FieldSet Check) (path : Path) (entries : Entries Value) : Outcome :=
  let missing := set.fields.filter fun field => !Entries.contains field.key entries
  .all (set.exclusive.map (checkGroup path entries) ++
    entries.map (fun (key, value) => checkEntry set path key value) ++
    missing.map (fillField path))

/-- Normal form keeps the order of the mapping; what was missing follows in the order of the
    fields. -/
def check (set : FieldSet Check) : Check := fun node =>
  match node.value with
  | .map entries =>
    let outcome := checkEntries set node.path entries
    if outcome.problems.isEmpty then .ok (.map outcome.entries) else .error outcome.problems
  | other => .error [.of node.path (.notMapping other.kindName)]

end DeviceConfig.FieldSet
