import DeviceConfig.Text.EditDistance
import Mathlib.Data.List.Infix
import Mathlib.Order.MinMax

/-!
The distance computed row by row is the one of the recursive rule (`distance_eq_editDistance`). The rule takes texts
apart at their starts and the rows grow at their ends; the bridge is that the distance is the least number of edits
(`editDistance_le_iff`), and edits can be read in either direction.
-/

namespace DeviceConfig.Text

variable {n m : Nat} {a b c d : List Char}

/-- Edits of single characters, from left to right, that turn one text into another, and how many they are. -/
inductive Edits : Nat → List Char → List Char → Prop
  | done : Edits 0 [] []
  | keep (x : Char) {n : Nat} {a b : List Char} (rest : Edits n a b) : Edits n (x :: a) (x :: b)
  | delete (x : Char) {n : Nat} {a b : List Char} (rest : Edits n a b) : Edits (n + 1) (x :: a) b
  | insert (y : Char) {n : Nat} {a b : List Char} (rest : Edits n a b) : Edits (n + 1) a (y :: b)
  | substitute (x y : Char) {n : Nat} {a b : List Char} (rest : Edits n a b) : Edits (n + 1) (x :: a) (y :: b)

namespace Edits

theorem insertAll (b : List Char) : Edits b.length [] b := by
  induction b with
  | nil => exact done
  | cons y b ih => exact ih.insert y

theorem deleteAll (a : List Char) : Edits a.length a [] := by
  induction a with
  | nil => exact done
  | cons x a ih => exact ih.delete x

theorem append (first : Edits n a b) (second : Edits m c d) : Edits (n + m) (a ++ c) (b ++ d) := by
  induction first with
  | done => rwa [Nat.zero_add]
  | keep x _ ih => exact ih.keep x
  | delete x _ ih => rw [Nat.add_right_comm]; exact ih.delete x
  | insert y _ ih => rw [Nat.add_right_comm]; exact ih.insert y
  | substitute x y _ ih => rw [Nat.add_right_comm]; exact ih.substitute x y

theorem reverse (edits : Edits n a b) : Edits n a.reverse b.reverse := by
  induction edits with
  | done => exact done
  | keep x _ ih =>
    rw [List.reverse_cons, List.reverse_cons]
    exact ih.append (done.keep x)
  | @delete x _ a b _ ih =>
    rw [List.reverse_cons, ← List.append_nil b.reverse]
    exact ih.append (done.delete x)
  | @insert y _ a b _ ih =>
    rw [List.reverse_cons, ← List.append_nil a.reverse]
    exact ih.append (done.insert y)
  | substitute x y _ ih =>
    rw [List.reverse_cons, List.reverse_cons]
    exact ih.append (done.substitute x y)

end Edits

theorem editDistance_nil_left (b : List Char) : editDistance [] b = b.length := by
  rw [editDistance]

theorem editDistance_nil_right (a : List Char) : editDistance a [] = a.length := by
  cases a with
  | nil => exact editDistance_nil_left []
  | cons x a => rw [editDistance]; exact List.cons_ne_nil x a

theorem editDistance_cons_cons (x y : Char) (a b : List Char) :
    editDistance (x :: a) (y :: b) =
      min (min (editDistance a (y :: b) + 1) (editDistance (x :: a) b + 1))
        (editDistance a b + if x == y then 0 else 1) := by
  rw [editDistance]

theorem editDistance_cons_left_le (x : Char) (a b : List Char) :
    editDistance (x :: a) b ≤ editDistance a b + 1 := by
  cases b with
  | nil => rw [editDistance_nil_right, editDistance_nil_right, List.length_cons]
  | cons y b => rw [editDistance_cons_cons]; omega

theorem editDistance_cons_right_le (y : Char) (a b : List Char) :
    editDistance a (y :: b) ≤ editDistance a b + 1 := by
  cases a with
  | nil => rw [editDistance_nil_left, editDistance_nil_left, List.length_cons]
  | cons x a => rw [editDistance_cons_cons]; omega

theorem Edits.editDistance_le (edits : Edits n a b) : editDistance a b ≤ n := by
  induction edits with
  | done => rw [editDistance_nil_left, List.length_nil]
  | keep x _ ih =>
    rw [editDistance_cons_cons, beq_self_eq_true, if_pos rfl]
    omega
  | @delete x _ a b _ ih =>
    have removed := editDistance_cons_left_le x a b
    omega
  | @insert y _ a b _ ih =>
    have added := editDistance_cons_right_le y a b
    omega
  | substitute x y _ ih =>
    rw [editDistance_cons_cons]
    split <;> omega

theorem edits_editDistance (a b : List Char) : Edits (editDistance a b) a b := by
  fun_induction editDistance a b with
  | case1 b => exact .insertAll b
  | case2 a _ => exact .deleteAll a
  | case3 x a y b deleted inserted kept =>
    rcases min_choice (min (editDistance a (y :: b) + 1) (editDistance (x :: a) b + 1))
      (editDistance a b + if x == y then 0 else 1) with least | least <;> rw [least]
    · rcases min_choice (editDistance a (y :: b) + 1) (editDistance (x :: a) b + 1) with least | least <;> rw [least]
      · exact deleted.delete x
      · exact inserted.insert y
    · by_cases same : x = y
      · subst same
        simpa using kept.keep x
      · simpa [same] using kept.substitute x y

/-- The distance is the least number of edits. -/
theorem editDistance_le_iff : editDistance a b ≤ n ↔ ∃ m ≤ n, Edits m a b :=
  ⟨fun least => ⟨_, least, edits_editDistance a b⟩, fun ⟨_, few, edits⟩ => edits.editDistance_le.trans few⟩

theorem editDistance_reverse (a b : List Char) : editDistance a.reverse b.reverse = editDistance a b := by
  have atMost (a b : List Char) : editDistance a.reverse b.reverse ≤ editDistance a b :=
    editDistance_le_iff.mpr ⟨_, Nat.le_refl _, (edits_editDistance a b).reverse⟩
  have back := atMost a.reverse b.reverse
  rw [List.reverse_reverse, List.reverse_reverse] at back
  exact Nat.le_antisymm (atMost a b) back

/-- The recursive rule at the ends of the texts. -/
theorem editDistance_concat_concat (a b : List Char) (x y : Char) :
    editDistance (a ++ [x]) (b ++ [y]) =
      min (min (editDistance a (b ++ [y]) + 1) (editDistance (a ++ [x]) b + 1))
        (editDistance a b + if x == y then 0 else 1) := by
  have cut := editDistance_cons_cons x y a.reverse b.reverse
  simp only [← List.reverse_concat, editDistance_reverse] at cut
  exact cut

/-- The distances between `a` and all beginnings of `b`, from the shortest on. -/
def distances (b a : List Char) : List Nat := b.inits.map (editDistance a)

theorem inits_eq_cons_tail (b : List Char) : b.inits = [] :: b.inits.tail := by
  cases b <;> rfl

theorem distanceCells_eq (a : List Char) (x : Char) (done rest : List Char) :
    distanceCells x rest (editDistance (a ++ [x]) done) (rest.inits.map fun t => editDistance a (done ++ t)) =
      rest.inits.tail.map fun t => editDistance (a ++ [x]) (done ++ t) := by
  -- along the row: `done` is the beginning of the second text that the cells on the left stand for
  induction rest generalizing done with
  | nil => rfl
  | cons y rest ih =>
    have others (e : List Char) : (rest.inits.map (y :: ·)).map (fun t => editDistance e (done ++ t)) =
        rest.inits.map fun t => editDistance e ((done ++ [y]) ++ t) := by
      simp only [List.map_map, Function.comp_def, List.append_assoc, List.singleton_append]
    have next := ih (done ++ [y])
    rw [List.inits_cons, List.map_cons, List.tail_cons, others, others, List.append_nil]
    rw [inits_eq_cons_tail rest, List.map_cons, List.append_nil, List.tail_cons] at next
    rw [inits_eq_cons_tail rest, List.map_cons, List.append_nil, distanceCells, ← editDistance_concat_concat, next,
      List.map_cons, List.append_nil]

theorem nextDistanceRow_distances (b a : List Char) (x : Char) :
    nextDistanceRow b (distances b a) x = distances b (a ++ [x]) := by
  have first : (distances b a).headD 0 + 1 = editDistance (a ++ [x]) [] := by
    rw [distances, inits_eq_cons_tail, List.map_cons, List.headD_cons, editDistance_nil_right,
      editDistance_nil_right, List.length_append, List.length_singleton]
  have cells := distanceCells_eq a x [] b
  simp only [List.nil_append] at cells
  rw [nextDistanceRow, first, distances, distances, cells, inits_eq_cons_tail, List.map_cons, List.tail_cons]

theorem foldl_nextDistanceRow (b done rest : List Char) :
    rest.foldl (nextDistanceRow b) (distances b done) = distances b (done ++ rest) := by
  induction rest generalizing done with
  | nil => rw [List.foldl_nil, List.append_nil]
  | cons x rest ih => rw [List.foldl_cons, nextDistanceRow_distances, ih, List.append_assoc, List.singleton_append]

theorem distances_nil (b : List Char) : distances b [] = List.range (b.length + 1) := by
  have lengths : distances b [] = b.inits.map List.length := List.map_congr_left fun t _ => editDistance_nil_left t
  rw [lengths]
  clear lengths
  induction b with
  | nil => rfl
  | cons y b ih =>
    rw [List.inits_cons, List.map_cons, List.map_map, List.length_cons, List.range_succ_eq_map, ← ih, List.map_map]
    rfl

theorem getLast?_inits (b : List Char) : b.inits.getLast? = some b := by
  rcases List.eq_nil_or_concat' b with rfl | ⟨start, y, rfl⟩
  · rfl
  · simp [List.inits_append]

theorem distance_eq_editDistance (a b : List Char) : distance a b = editDistance a b := by
  rw [distance, ← distances_nil, foldl_nextDistanceRow, List.nil_append, List.getLastD_eq_getLast?, distances,
    List.getLast?_map, getLast?_inits]
  rfl

end DeviceConfig.Text
