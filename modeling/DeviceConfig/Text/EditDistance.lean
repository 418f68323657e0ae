/-!
The least number of insertions, deletions and substitutions of one character that turn one text
into another.
-/

namespace DeviceConfig.Text

/-- The distance by its recursive rule: drop a character of either text, or match the two heads. -/
def editDistance : List Char → List Char → Nat
  | [], b => b.length
  | a, [] => a.length
  | x :: a, y :: b =>
    min (min (editDistance a (y :: b) + 1) (editDistance (x :: a) b + 1))
      (editDistance a b + if x == y then 0 else 1)
termination_by a b => a.length + b.length

/-- The cells of the next row after the first one. `left` is the cell before them, `above` the row
    before, from the cell above `left` on. -/
def distanceCells (x : Char) : (b : List Char) → (left : Nat) → (above : List Nat) → List Nat
  | y :: b, left, diagonal :: up :: above =>
    let cell := min (min (up + 1) (left + 1)) (diagonal + if x == y then 0 else 1)
    cell :: distanceCells x b cell (up :: above)
  | _, _, _ => []

/-- From the distances between a text and every beginning of `b` to those for the text with `x`
    added. -/
def nextDistanceRow (b : List Char) (above : List Nat) (x : Char) : List Nat :=
  let first := above.headD 0 + 1
  first :: distanceCells x b first above

/-- The distance, computed row by row over the beginnings of both texts. -/
def distance (a b : List Char) : Nat :=
  (a.foldl (nextDistanceRow b) (List.range (b.length + 1))).getLastD 0

end DeviceConfig.Text
