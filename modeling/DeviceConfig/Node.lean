import DeviceConfig.Path
import DeviceConfig.Value.Basic

/-!
A value together with its place in the document.
-/

namespace DeviceConfig

structure Node where
  path : Path
  value : Value

namespace Node

def atRoot (value : Value) : Node := ⟨.root, value⟩

def equal (a b : Node) : Bool := a.path == b.path && a.value.equal b.value

def get? (node : Node) (key : String) : Option Node :=
  match node.value with
  | .map entries => (Entries.get? key entries).map fun value => ⟨node.path.key key, value⟩
  | _ => none

def contains (node : Node) (key : String) : Bool := (node.get? key).isSome

/-- Values at positions from `first` on of the list at `path`. -/
def itemsFrom (path : Path) (first : Nat) : List Value → List Node
  | [] => []
  | value :: rest => ⟨path.index first, value⟩ :: itemsFrom path (first + 1) rest

/-- The items of a list; other values have none. -/
def items (node : Node) : List Node :=
  match node.value with
  | .list values => itemsFrom node.path 0 values
  | _ => []

/-- The entries of a mapping; other values have none. -/
def entries (node : Node) : List (String × Node) :=
  match node.value with
  | .map entries => entries.map fun (key, value) => (key, ⟨node.path.key key, value⟩)
  | _ => []

def string? (node : Node) (key : String) : Option String := (node.get? key).bind (·.value.string?)

def bool? (node : Node) (key : String) : Option Bool := (node.get? key).bind (·.value.bool?)

def id? (node : Node) (key : String) : Option ObjectId := (node.get? key).bind (·.value.id?)

end Node

end DeviceConfig
