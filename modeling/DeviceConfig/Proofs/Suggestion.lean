import DeviceConfig.Proofs.Lists
import DeviceConfig.Proofs.Text.EditDistance
import DeviceConfig.Suggestion

/-!
Which known name is suggested for an unknown one: the first of the nearest, if it lies within the limit
(`nearest?_first`).
-/

namespace DeviceConfig.Suggestion

/-- How many edits two names are apart when case does not count. -/
def apart (name candidate : String) : Nat :=
  Text.editDistance (Text.lowercase name).toList (Text.lowercase candidate).toList

theorem nameDistance_eq_apart (name candidate : String) : nameDistance name candidate = apart name candidate :=
  Text.distance_eq_editDistance _ _

/-- The candidate stands first among those that are nearest to the name. -/
def IsFirstNearest (name : String) (candidates : List String) (found : String) : Prop :=
  ∃ before after, candidates = before ++ found :: after ∧
    (∀ candidate ∈ before, apart name found < apart name candidate) ∧
    ∀ candidate ∈ after, apart name found ≤ apart name candidate

namespace IsFirstNearest

variable {name found other candidate : String} {candidates : List String}

theorem mem (first : IsFirstNearest name candidates found) : found ∈ candidates := by
  obtain ⟨before, after, rfl, -, -⟩ := first
  exact List.mem_append_right _ List.mem_cons_self

theorem le (first : IsFirstNearest name candidates found) (member : candidate ∈ candidates) :
    apart name found ≤ apart name candidate := by
  obtain ⟨before, after, rfl, farther, notNearer⟩ := first
  rcases List.mem_append.mp member with earlier | later
  · exact Nat.le_of_lt (farther candidate earlier)
  · rcases List.mem_cons.mp later with rfl | later
    · exact Nat.le_refl _
    · exact notNearer candidate later

theorem unique (first : IsFirstNearest name candidates found) (second : IsFirstNearest name candidates other) :
    found = other := by
  have alike : apart name found = apart name other := Nat.le_antisymm (first.le second.mem) (second.le first.mem)
  obtain ⟨before, after, rfl, farther, -⟩ := first
  obtain ⟨beforeOther, afterOther, split, fartherOther, -⟩ := second
  rcases eq_or_mem_of_append_cons_eq split with same | earlier | earlier
  · exact same
  · have nearer := fartherOther found earlier
    omega
  · have nearer := farther other earlier
    omega

theorem concat (first : IsFirstNearest name candidates found) (notNearer : apart name found ≤ apart name candidate) :
    IsFirstNearest name (candidates ++ [candidate]) found := by
  obtain ⟨before, after, rfl, farther, behind⟩ := first
  refine ⟨before, after ++ [candidate], by simp, farther, fun c member => ?_⟩
  rcases List.mem_append.mp member with member | last
  · exact behind c member
  · obtain rfl := List.mem_singleton.mp last
    exact notNearer

theorem last (farther : ∀ c ∈ candidates, apart name candidate < apart name c) :
    IsFirstNearest name (candidates ++ [candidate]) candidate :=
  ⟨candidates, [], rfl, farther, nofun⟩

end IsFirstNearest

/-- What the best candidate so far says of all candidates that were looked at. -/
inductive IsBest (name : String) (limit : Nat) (seen : List String) : Option (String × Nat) → Prop
  | none (far : ∀ candidate ∈ seen, limit < apart name candidate) : IsBest name limit seen none
  | some {found : String} (within : apart name found ≤ limit) (first : IsFirstNearest name seen found) :
    IsBest name limit seen (some (found, apart name found))

section Best

variable {name : String} {limit : Nat} {seen candidates : List String} {best : Option (String × Nat)}

theorem isBest_closer (isBest : IsBest name limit seen best) (candidate : String) :
    IsBest name limit (seen ++ [candidate]) (closer name limit best candidate) := by
  unfold closer
  rw [nameDistance_eq_apart]
  by_cases far : limit < apart name candidate
  · rw [if_pos far]
    cases isBest with
    | none others => exact .none (List.forall_mem_append.mpr ⟨others, List.forall_mem_singleton.mpr far⟩)
    | some within first => exact .some within (first.concat (by omega))
  · rw [if_neg far]
    have near : apart name candidate ≤ limit := Nat.le_of_not_lt far
    cases isBest with
    | none others => exact .some near (.last fun c member => Nat.lt_of_le_of_lt near (others c member))
    | @some found within first =>
      by_cases nearer : apart name candidate < apart name found
      · simp only [if_pos nearer]
        exact .some near (.last fun c member => Nat.lt_of_lt_of_le nearer (first.le member))
      · simp only [if_neg nearer]
        exact .some within (first.concat (Nat.le_of_not_lt nearer))

theorem isBest_foldl (isBest : IsBest name limit seen best) :
    IsBest name limit (seen ++ candidates) (candidates.foldl (closer name limit) best) := by
  induction candidates generalizing seen best with
  | nil => rwa [List.append_nil]
  | cons candidate rest ih =>
    have next := ih (isBest_closer isBest candidate)
    rw [List.append_assoc, List.singleton_append] at next
    rw [List.foldl_cons]
    exact next

end Best

/-- The distance of two texts is the one of the recursive rule, and a candidate is found exactly if one lies within
    the limit when case does not count: the first of the nearest. -/
theorem nearest?_first :
    (∀ a b : String, Text.distance a.toList b.toList = Text.editDistance a.toList b.toList) ∧
    ∀ (name : String) (candidates : List String) (limit : Nat),
      ((nearest? name candidates limit).isSome = true ↔ ∃ candidate ∈ candidates, apart name candidate ≤ limit) ∧
      ∀ found, nearest? name candidates limit = some found ↔
        IsFirstNearest name candidates found ∧ apart name found ≤ limit := by
  refine ⟨fun a b => Text.distance_eq_editDistance _ _, fun name candidates limit => ?_⟩
  have nothing : IsBest name limit [] none := .none nofun
  have whole : IsBest name limit candidates (candidates.foldl (closer name limit) none) := isBest_foldl nothing
  rw [nearest?]
  generalize candidates.foldl (closer name limit) none = best at whole
  cases whole with
  | none far =>
    refine ⟨iff_of_false nofun ?_, fun found => iff_of_false nofun ?_⟩
    · rintro ⟨candidate, member, within⟩
      exact Nat.not_le_of_lt (far candidate member) within
    · rintro ⟨first, within⟩
      exact Nat.not_le_of_lt (far found first.mem) within
  | @some nearest withinLimit first =>
    refine ⟨iff_of_true rfl ⟨nearest, first.mem, withinLimit⟩, fun found => ⟨?_, ?_⟩⟩
    · rintro ⟨⟩
      exact ⟨first, withinLimit⟩
    · rintro ⟨other, -⟩
      rw [other.unique first]
      rfl

/-- Of two candidates at the same distance the first is taken. -/
example : nearest? "Switsh" ["core", "switch", "Swatsh"] 2 = some "switch" := by cbv

end DeviceConfig.Suggestion
