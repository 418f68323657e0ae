import DeviceConfig.Program.Draft

/-!
What comes of the steps that build a program. `Build.Yields` holds of a step if, begun with a draft, it
either ends with what is expected of its result and of the draft after it, or fails in one of the ways
that are allowed.
-/

namespace DeviceConfig.Build

variable {α β : Type}

def Yields (step : Build α) (draft : Draft) (fails : CompileError → Prop)
    (holds : α → Draft → Prop) : Prop :=
  match step.apply draft with
  | (.ok a, next) => holds a next
  | (.error e, _) => fails e

variable {draft : Draft} {fails : CompileError → Prop} {holds : α → Draft → Prop}

theorem yields_pure {a : α} (done : holds a draft) : Yields (pure a) draft fails holds := done

theorem yields_throw {e : CompileError} (allowed : fails e) : Yields (throw e) draft fails holds := allowed

theorem apply_bind (first : Build α) (next : α → Build β) (draft : Draft) :
    (first >>= next).apply draft =
      match first.apply draft with
      | (.ok a, later) => (next a).apply later
      | (.error e, later) => (.error e, later) := by
  have whole : (first >>= next).apply draft =
      ExceptT.bindCont next (first.apply draft).1 (first.apply draft).2 := rfl
  rw [whole]
  rcases first.apply draft with ⟨e | a, later⟩
  · rfl
  · rfl

theorem yields_bind {first : Build α} {next : α → Build β} {holds : β → Draft → Prop}
    (step : Yields first draft fails fun a later => Yields (next a) later fails holds) :
    Yields (first >>= next) draft fails holds := by
  unfold Yields at step ⊢
  rw [apply_bind]
  rcases outcome : first.apply draft with ⟨e | a, later⟩
  · rw [outcome] at step
    exact step
  · rw [outcome] at step
    exact step

theorem Yields.mono {step : Build α} {expected : α → Draft → Prop}
    (yields : Yields step draft fails holds) (weaker : ∀ a later, holds a later → expected a later) :
    Yields step draft fails expected := by
  unfold Yields at yields ⊢
  rcases outcome : step.apply draft with ⟨e | a, later⟩
  · rw [outcome] at yields
    exact yields
  · rw [outcome] at yields
    exact weaker a later yields

theorem Yields.bind {first : Build α} {next : α → Build β} {expected : β → Draft → Prop}
    (yields : Yields first draft fails holds)
    (rest : ∀ a later, holds a later → Yields (next a) later fails expected) :
    Yields (first >>= next) draft fails expected :=
  yields_bind (yields.mono rest)

theorem yields_get {holds : Draft → Draft → Prop} (done : holds draft draft) :
    Yields get draft fails holds := done

theorem yields_modify {change : Draft → Draft} {holds : PUnit → Draft → Prop}
    (done : holds ⟨⟩ (change draft)) : Yields (modify change) draft fails holds := done

theorem yields_setSymbols {symbols : Symbols} {holds : Unit → Draft → Prop}
    (done : holds () { draft with symbols := symbols }) :
    Yields (setSymbols symbols) draft fails holds := done

theorem apply_ofSymbols (read : Symbols → Except CompileError α) (draft : Draft) :
    (ofSymbols read).apply draft = (read draft.symbols, draft) := by
  have held : (get : Build Draft).apply draft = (.ok draft, draft) := rfl
  rw [ofSymbols, apply_bind, held]
  dsimp only
  cases read draft.symbols with
  | error e => rfl
  | ok a => rfl

theorem yields_ofSymbols {read : Symbols → Except CompileError α} {a : α}
    (success : read draft.symbols = .ok a) (done : holds a draft) :
    Yields (ofSymbols read) draft fails holds := by
  rw [Yields, apply_ofSymbols, success]
  exact done

theorem yields_ofSymbols_error {read : Symbols → Except CompileError α} {e : CompileError}
    (failure : read draft.symbols = .error e) (allowed : fails e) :
    Yields (ofSymbols read) draft fails holds := by
  rw [Yields, apply_ofSymbols, failure]
  exact allowed

end DeviceConfig.Build
