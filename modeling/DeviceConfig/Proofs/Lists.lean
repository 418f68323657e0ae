import Mathlib.Data.List.Forall2
import Mathlib.Data.List.Nodup

/-!
Lists with one more item at the end, lists whose items are found by a key, and lists that are related item by item.
-/

namespace DeviceConfig

section Keys

variable {α : Type} {key : α → String} {items : List α} {name : String}

theorem find?_key_eq_none_iff : items.find? (key · == name) = none ↔ name ∉ items.map key := by
  rw [List.find?_eq_none, List.mem_map, not_exists]
  constructor
  · rintro none item ⟨member, same⟩
    exact none item member (beq_iff_eq.mpr same)
  · intro absent item member same
    exact absent item ⟨member, beq_iff_eq.mp same⟩

theorem key_of_find? {item : α} (found : items.find? (key · == name) = some item) : key item = name := by
  simpa using List.find?_some found

theorem find?_key_eq_some_iff (differ : (items.map key).Nodup) {item : α} :
    items.find? (key · == name) = some item ↔ item ∈ items ∧ key item = name := by
  constructor
  · intro found
    exact ⟨List.mem_of_find?_eq_some found, key_of_find? found⟩
  · rintro ⟨member, same⟩
    cases found : items.find? (key · == name) with
    | none => exact absurd (List.mem_map.mpr ⟨item, member, same⟩) (find?_key_eq_none_iff.mp found)
    | some other =>
      have alike := (key_of_find? found).trans same.symm
      rw [List.inj_on_of_nodup_map differ (List.mem_of_find?_eq_some found) member alike]

end Keys

/-- Only the first of equal items is kept. -/
theorem eraseDups_concat {α : Type} [BEq α] [LawfulBEq α] [DecidableEq α] (items : List α) (item : α) :
    (items ++ [item]).eraseDups =
      if item ∈ items then items.eraseDups else items.eraseDups ++ [item] := by
  rw [List.eraseDups_append, List.removeAll, List.filter_singleton, List.elem_eq_contains]
  by_cases known : item ∈ items
  · rw [if_pos known, List.contains_iff_mem.mpr known]
    exact List.append_nil _
  · rw [if_neg known, List.contains_eq_mem, decide_eq_false known]
    rfl

/-- Where the list is cut: at its last item, or before that. -/
theorem append_last_eq_iff {α : Type} {items before after : List α} {item last : α} :
    items ++ [last] = before ++ item :: after ↔
      (items = before ∧ last = item ∧ after = []) ∨
      ∃ rest, after = rest ++ [last] ∧ items = before ++ item :: rest := by
  constructor
  · intro whole
    rcases List.eq_nil_or_concat' after with rfl | ⟨rest, final, rfl⟩
    · obtain ⟨same, sameLast⟩ := List.append_inj' whole rfl
      exact .inl ⟨same, List.singleton_inj.mp sameLast, rfl⟩
    · have split : items ++ [last] = (before ++ item :: rest) ++ [final] := by simpa using whole
      obtain ⟨same, sameLast⟩ := List.append_inj' split rfl
      obtain rfl := List.singleton_inj.mp sameLast
      exact .inr ⟨rest, rfl, same⟩
  · rintro (⟨rfl, rfl, rfl⟩ | ⟨rest, rfl, rfl⟩) <;> simp

/-- Of two items of a list one comes first. -/
theorem eq_or_mem_of_append_cons_eq {α : Type} {before after beforeOther afterOther : List α} {item other : α}
    (same : before ++ item :: after = beforeOther ++ other :: afterOther) :
    item = other ∨ item ∈ beforeOther ∨ other ∈ before := by
  induction before generalizing beforeOther with
  | nil =>
    cases beforeOther with
    | nil => exact .inl (List.cons.inj same).1
    | cons first rest => exact .inr (.inl (List.mem_cons.mpr (.inl (List.cons.inj same).1)))
  | cons first before ih =>
    cases beforeOther with
    | nil => exact .inr (.inr (List.mem_cons.mpr (.inl (List.cons.inj same).1.symm)))
    | cons firstOther rest =>
      rcases ih (List.cons.inj same).2 with alike | earlier | earlier
      · exact .inl alike
      · exact .inr (.inl (List.mem_cons_of_mem _ earlier))
      · exact .inr (.inr (List.mem_cons_of_mem _ earlier))

section Pairs

variable {α β : Type} {related : α → β → Prop} {xs : List α} {ys : List β}

theorem exists_mem_left_of_forall₂ (pairs : List.Forall₂ related xs ys) {y : β} (member : y ∈ ys) :
    ∃ x ∈ xs, related x y := by
  induction pairs with
  | nil => cases member
  | cons first rest ih =>
    rcases List.mem_cons.mp member with rfl | inRest
    · exact ⟨_, List.mem_cons_self .., first⟩
    · obtain ⟨x, inside, holds⟩ := ih inRest
      exact ⟨x, List.mem_cons_of_mem _ inside, holds⟩

theorem exists_mem_right_of_forall₂ (pairs : List.Forall₂ related xs ys) {x : α} (member : x ∈ xs) :
    ∃ y ∈ ys, related x y :=
  exists_mem_left_of_forall₂ pairs.flip member

theorem forall_mem_of_forall₂ {holds : β → Prop} (pairs : List.Forall₂ related xs ys)
    (each : ∀ x ∈ xs, ∀ y, related x y → holds y) : ∀ y ∈ ys, holds y := by
  intro y member
  obtain ⟨x, inside, both⟩ := exists_mem_left_of_forall₂ pairs member
  exact each x inside y both

/-- Where one relation holds of two lists item by item, another one does exactly if it does for each item of the
    first list. -/
theorem forall₂_iff_of_forall₂ {other : α → β → Prop} {holds : α → Prop} (pairs : List.Forall₂ related xs ys)
    (each : ∀ x ∈ xs, ∀ y, related x y → (other x y ↔ holds x)) :
    List.Forall₂ other xs ys ↔ ∀ x ∈ xs, holds x := by
  induction pairs with
  | nil => exact iff_of_true .nil nofun
  | cons first rest ih =>
    rw [List.forall₂_cons, List.forall_mem_cons, each _ List.mem_cons_self _ first,
      ih fun x member => each x (List.mem_cons_of_mem _ member)]

end Pairs

end DeviceConfig
