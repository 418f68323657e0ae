import DeviceConfig.Cpp.Name
import DeviceConfig.Node
import DeviceConfig.Problem

/-!
The identifiers of a whole document. Names that users declare must differ, references must name
declared objects of fitting types, and objects without a name get one.
-/

namespace DeviceConfig

structure Placed where
  id : ObjectId
  path : Path

mutual

/-- All identifiers of a value. Those that a mapping holds itself come before those deeper in it. -/
def Value.identifiers (path : Path) : Value → List Placed
  | .id i => [⟨i, path⟩]
  | .map entries => ownIdentifiers path entries ++ deepIdentifiers path entries
  | .list items => itemIdentifiers path 0 items
  | _ => []

def itemIdentifiers (path : Path) (position : Nat) : List Value → List Placed
  | [] => []
  | item :: rest =>
    item.identifiers (path.index position) ++ itemIdentifiers path (position + 1) rest

/-- The identifiers that are values of the mapping. -/
def ownIdentifiers (path : Path) : List (String × Value) → List Placed
  | [] => []
  | (key, .id i) :: rest => ⟨i, path.key key⟩ :: ownIdentifiers path rest
  | _ :: rest => ownIdentifiers path rest

/-- The identifiers inside values of the mapping. -/
def deepIdentifiers (path : Path) : List (String × Value) → List Placed
  | [] => []
  | (_, .id _) :: rest => deepIdentifiers path rest
  | (key, value) :: rest => value.identifiers (path.key key) ++ deepIdentifiers path rest

end

def Node.identifiers (node : Node) : List Placed := node.value.identifiers node.path

def Node.declaredObjects (node : Node) : List ObjectId :=
  (node.identifiers.filter fun p => p.id.role = .declared).map (·.id)

/-- A state of names passed through the identifiers of a value. -/
abbrev Naming := StateM (List String)

/-- A made-up identifier takes the first free name of its type. -/
def ObjectId.rename (i : ObjectId) : Naming ObjectId := fun taken =>
  if i.role = .generated then
    let name := Cpp.fresh i.type.nameHint taken
    ({ i with name := name }, name :: taken)
  else (i, taken)

/-- The identifiers that are values of the mapping. -/
def heldIds : List (String × Value) → List ObjectId
  | [] => []
  | (_, .id i) :: rest => i :: heldIds rest
  | _ :: rest => heldIds rest

mutual

/-- Names the made-up identifiers of a value, in the order of `Value.identifiers`. -/
def Value.nameGenerated : Value → Naming Value
  | .id i => do
    let named ← i.rename
    return .id named
  | .map entries => do
    let held ← (heldIds entries).mapM ObjectId.rename
    let named ← nameEntries held entries
    return .map named
  | .list items => do
    let named ← nameItems items
    return .list named
  | other => return other

def nameItems : List Value → Naming (List Value)
  | [] => return []
  | item :: rest => do
    let named ← item.nameGenerated
    let others ← nameItems rest
    return named :: others

/-- Takes the identifiers that the mapping holds from the list of them as they are named. -/
def nameEntries : List ObjectId → List (String × Value) → Naming (List (String × Value))
  | _, [] => return []
  | held, (key, .id i) :: rest => do
    let others ← nameEntries held.tail rest
    return (key, .id (held.headD i)) :: others
  | held, (key, value) :: rest => do
    let named ← value.nameGenerated
    let others ← nameEntries held rest
    return (key, named) :: others

end

namespace Placed

def firsts (declared : List Placed) : List Placed :=
  declared.foldl (fun seen p => if seen.any (·.id.name == p.id.name) then seen else seen ++ [p]) []

def find? (name : String) (declared : List Placed) : Option Placed :=
  declared.find? (·.id.name == name)

/-- The declarations after the first of the same name. -/
def redefinitions (seen : List Placed) : List Placed → List Problem
  | [] => []
  | p :: rest =>
    match find? p.id.name seen with
    | some first =>
      .of p.path (.redefinedId p.id.name first.path) :: redefinitions seen rest
    | none => redefinitions (seen ++ [p]) rest

/-- What is wrong with a reference to one of the declared objects. -/
def checkUse (declared : List Placed) (use : Placed) : Option Problem :=
  match find? use.id.name declared with
  | none => some (.of use.path (.undeclaredId use.id.name (declared.map (·.id.name))))
  | some found =>
    if found.id.type.descendsFrom use.id.type then none
    else some (.of use.path (.wrongIdType use.id.name found.id.type.text use.id.type.text))

end Placed

/-- Names the made-up identifiers of a document and gives all problems with its identifiers. -/
def Node.resolveIdentifiers (node : Node) : List Problem × Node :=
  let all := node.identifiers
  let declarations := all.filter fun p => p.id.role = .declared
  let uses := all.filter fun p => p.id.role = .used
  let declared := Placed.firsts declarations
  let problems :=
    Placed.redefinitions [] declarations ++ uses.filterMap (Placed.checkUse declared)
  let (value, _) := node.value.nameGenerated (declared.map (·.id.name))
  (problems, ⟨node.path, value⟩)

end DeviceConfig
