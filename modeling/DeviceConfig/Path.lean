/-!
Where a value stands in a configuration document.
-/

namespace DeviceConfig

/-- One step from a value to a part of it. -/
inductive Segment where
  | key (name : String)
  | index (position : Nat)
  deriving Repr, DecidableEq

/-- The steps from the document's root. -/
structure Path where
  segments : List Segment
  deriving Repr, DecidableEq

namespace Path

def root : Path := ⟨[]⟩

def key (path : Path) (name : String) : Path := ⟨path.segments ++ [.key name]⟩

def index (path : Path) (position : Nat) : Path := ⟨path.segments ++ [.index position]⟩

def isRoot (path : Path) : Bool := path.segments.isEmpty

/-- The top-level key that the path starts with. -/
def section? (path : Path) : Option String :=
  match path.segments with
  | .key name :: _ => some name
  | _ => none

def lastKey? (path : Path) : Option String :=
  path.segments.reverse.findSome? fun
    | .key name => some name
    | .index _ => none

/-- `inner` starts with all of `outer`. -/
def Extends (inner outer : Path) : Prop := outer.segments <+: inner.segments

theorem Extends.refl (path : Path) : Extends path path := List.prefix_refl _

theorem Extends.trans {inner middle outer : Path} (first : Extends inner middle)
    (second : Extends middle outer) : Extends inner outer := List.IsPrefix.trans second first

theorem key_extends (path : Path) (name : String) : Extends (path.key name) path :=
  List.prefix_append _ _

theorem index_extends (path : Path) (position : Nat) : Extends (path.index position) path :=
  List.prefix_append _ _

def stepText : Segment → String
  | .key name => "." ++ name
  | .index position => "[" ++ toString position ++ "]"

/-- Keys follow a point, except at the start, and positions stand in brackets. -/
def text (path : Path) : String :=
  match path.segments with
  | [] => "(root)"
  | .key name :: rest => name ++ String.join (rest.map stepText)
  | segments => String.join (segments.map stepText)

end Path

end DeviceConfig
