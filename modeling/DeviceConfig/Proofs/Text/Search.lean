import DeviceConfig.Text.Search
import Mathlib.Data.List.Basic

/-!
Cutting a text at a mark: where the cut is found, and that there is none without the mark (`cutAtChar?_eq_some_iff`,
`cutAtLast?_eq_some_iff`).
-/

namespace DeviceConfig.Text

variable {mark : Char} {text before after : List Char}

theorem cutAtChar?_eq_none_iff : cutAtChar? mark text = none ↔ mark ∉ text := by
  induction text with
  | nil => simp [cutAtChar?]
  | cons c rest ih =>
    by_cases here : c = mark
    · simp [cutAtChar?, here]
    · simp [cutAtChar?, here, ih, Ne.symm here]

theorem cutAtChar?_eq_some_iff :
    cutAtChar? mark text = some (before, after) ↔ text = before ++ mark :: after ∧ mark ∉ before := by
  refine ⟨eq_of_cutAtChar?, ?_⟩
  rintro ⟨rfl, absent⟩
  induction before with
  | nil => simp [cutAtChar?]
  | cons c rest ih =>
    obtain ⟨other, later⟩ := not_or.mp (List.mem_cons.not.mp absent)
    simp [cutAtChar?, Ne.symm other, ih later]

theorem cutAtLast?_eq_none_iff : cutAtLast? mark text = none ↔ mark ∉ text := by
  refine ⟨not_mem_of_cutAtLast?, fun absent => ?_⟩
  cases cut : cutAtLast? mark text with
  | none => rfl
  | some parts =>
    obtain ⟨whole, -⟩ := eq_of_cutAtLast? (cut : cutAtLast? mark text = some (parts.1, parts.2))
    rw [whole] at absent
    simp at absent

theorem cutAtLast?_eq_some_iff :
    cutAtLast? mark text = some (before, after) ↔ text = before ++ mark :: after ∧ mark ∉ after := by
  refine ⟨eq_of_cutAtLast?, ?_⟩
  rintro ⟨rfl, absent⟩
  induction before with
  | nil => simp [cutAtLast?, cutAtLast?_eq_none_iff.mpr absent]
  | cons c rest ih => simp [cutAtLast?, ih]

end DeviceConfig.Text
