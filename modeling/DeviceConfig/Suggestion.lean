import DeviceConfig.Text.Case
import DeviceConfig.Text.EditDistance
import DeviceConfig.Text.Blank

/-!
Which known name was meant by an unknown one, and the help text that says so.
-/

namespace DeviceConfig.Suggestion

/-- How far two names are apart when case does not count. -/
def nameDistance (name candidate : String) : Nat :=
  Text.distance (Text.lowercase name).toList (Text.lowercase candidate).toList

/-- The better of the best candidate so far and the next one; the earlier wins a tie. -/
def closer (name : String) (limit : Nat) (best : Option (String × Nat)) (candidate : String) :
    Option (String × Nat) :=
  let found := nameDistance name candidate
  if limit < found then best
  else
    match best with
    | some (_, least) => if found < least then some (candidate, found) else best
    | none => some (candidate, found)

/-- The first of the nearest candidates within the limit. -/
def nearest? (name : String) (candidates : List String) (limit : Nat) : Option String :=
  (candidates.foldl (closer name limit) none).map (·.1)

/-- Longer names may hold more typing errors: a third of the name's bytes, at least two and at
    most three. -/
def typoLimit (name : String) : Nat := max 2 (min 3 (name.utf8ByteSize / 3))

/-- Help for a name that is none of the available ones; `what` says what the names stand for. -/
def help (name : String) (available : List String) (what : String) : String :=
  match nearest? name available (typoLimit name) with
  | some meant => s!"did you mean '{meant}'?"
  | none =>
    if available.isEmpty then s!"no {what} are defined here"
    else if available.length ≤ 8 then s!"valid {what}: " ++ String.intercalate ", " available
    else s!"check the name for typos; {available.length} {what} are defined"

end DeviceConfig.Suggestion
