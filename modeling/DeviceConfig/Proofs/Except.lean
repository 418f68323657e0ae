/-!
Computations that may fail, opened step by step.
-/

namespace DeviceConfig

variable {ε α β : Type}

theorem bind_eq_ok_iff {first : Except ε α} {next : α → Except ε β} {b : β} :
    first >>= next = .ok b ↔ ∃ a, first = .ok a ∧ next a = .ok b := by
  constructor
  · intro done
    cases first with
    | error e => cases done
    | ok a => exact ⟨a, rfl, done⟩
  · rintro ⟨a, rfl, done⟩
    exact done

theorem exists_bind_eq_ok {first : Except ε α} {next : α → Except ε β} (head : ∃ a, first = .ok a)
    (rest : ∀ a, ∃ b, next a = .ok b) : ∃ b, first >>= next = .ok b := by
  obtain ⟨a, rfl⟩ := head
  exact rest a

theorem map_eq_ok_iff {first : Except ε α} {change : α → β} {b : β} :
    first.map change = .ok b ↔ ∃ a, first = .ok a ∧ change a = b := by
  cases first <;> simp [Except.map]

/-- Computations that agree on their results fail alike. -/
theorem error_iff_of_map_eq {first second : Except ε α} {change : α → β}
    (same : first.map change = second.map change) {e : ε} : first = .error e ↔ second = .error e := by
  cases first with
  | error failed =>
    cases second with
    | error failedToo =>
      cases same
      rfl
    | ok b => cases same
  | ok a =>
    cases second with
    | error failed => cases same
    | ok b => exact iff_of_false nofun nofun

theorem bind_error_congr {first : Except ε α} {next other : α → Except ε β} {e : ε}
    (same : ∀ a, next a = .error e ↔ other a = .error e) : first >>= next = .error e ↔ first >>= other = .error e := by
  cases first with
  | error failed => rfl
  | ok a => exact same a

theorem bind_pure_eq_error_iff {first : Except ε α} {change : α → β} {e : ε} :
    (first >>= fun a => pure (change a)) = .error e ↔ first = .error e := by
  cases first with
  | error failed => exact ⟨fun same => congrArg _ (Except.error.inj same), fun same => congrArg _ (Except.error.inj same)⟩
  | ok a => exact iff_of_false nofun nofun

/-- A condition that must fail for the rest to be reached. -/
theorem guard_eq_ok_iff {condition : Prop} [Decidable condition] {e : ε} {unreached : PUnit → Except ε α}
    {rest : Except ε α} {a : α} :
    (if condition then throw e >>= unreached else rest) = .ok a ↔ ¬condition ∧ rest = .ok a := by
  by_cases fails : condition
  · rw [if_pos fails]
    constructor
    · intro done
      cases done
    · rintro ⟨holds, -⟩
      exact absurd fails holds
  · rw [if_neg fails]
    exact ⟨fun done => ⟨fails, done⟩, And.right⟩

end DeviceConfig
