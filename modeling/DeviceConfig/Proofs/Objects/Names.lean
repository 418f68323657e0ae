import DeviceConfig.Proofs.Assembly.Drafts

/-!
Which made-up names can be the same. A name tells what it was made from, as long as no hint is the beginning of
another (`Cpp.IsCalledAfter.not_of_apart`): the objects of the configuration share no names with the parts that
actions are made of, nor automations with other objects.
-/

namespace DeviceConfig.Cpp

variable {hint other name : String} {taken earlier : List String}

/-- The name is the hint, or begins with the hint and an underscore. -/
def IsCalledAfter (hint name : String) : Prop := hint.toList ++ ['_'] <+: name.toList ++ ['_']

theorem isCalledAfter_refl (hint : String) : IsCalledAfter hint hint := List.prefix_rfl

theorem isCalledAfter_numbered (hint : String) (n : Nat) : IsCalledAfter hint (numbered hint n) := by
  have parts : (numbered hint n).toList ++ ['_'] = (hint.toList ++ ['_']) ++ (Nat.toDigits 10 n ++ ['_']) := by
    rw [toList_numbered]
    simp
  rw [IsCalledAfter, parts]
  exact List.prefix_append _ _

theorem IsCalledAfter.trans (first : IsCalledAfter hint other) (second : IsCalledAfter other name) :
    IsCalledAfter hint name := List.IsPrefix.trans first second

/-- Neither hint, with an underscore after it, is the beginning of the other. -/
def areApart (hint other : String) : Bool :=
  !(hint.toList ++ ['_']).isPrefixOf (other.toList ++ ['_']) &&
    !(other.toList ++ ['_']).isPrefixOf (hint.toList ++ ['_'])

theorem IsCalledAfter.not_of_apart (called : IsCalledAfter hint name) (apart : areApart hint other = true) :
    ¬IsCalledAfter other name := by
  intro calledToo
  simp only [areApart, Bool.and_eq_true, Bool.not_eq_true', ← Bool.not_eq_true, List.isPrefixOf_iff_prefix] at apart
  rcases List.prefix_or_prefix_of_prefix called calledToo with shorter | longer
  · exact apart.1 shorter
  · exact apart.2 longer

theorem IsFirstFree.notMem (free : IsFirstFree hint taken name) : name ∉ taken := by
  rcases free with ⟨absent, rfl⟩ | ⟨-, n, -, rfl, absent, -⟩
  · exact absent
  · exact absent

theorem IsFirstFree.isCalledAfter (free : IsFirstFree hint taken name) : IsCalledAfter hint name := by
  rcases free with ⟨-, rfl⟩ | ⟨-, n, -, rfl, -⟩
  · exact isCalledAfter_refl name
  · exact isCalledAfter_numbered hint n

theorem IsFirstFree.eq_of_notMem (free : IsFirstFree hint taken name) (absent : hint ∉ taken) : name = hint := by
  rcases free with ⟨-, same⟩ | ⟨present, -⟩
  · exact same
  · exact absurd present absent

/-- Of two names that were made from one hint, the first is no later one, unless the second had been taken. -/
theorem IsFirstFree.eq_or_mem {later : String} (free : IsFirstFree hint taken name)
    (freeToo : IsFirstFree hint earlier later) (untaken : later ∉ taken) : name = later ∨ name ∈ earlier := by
  rcases free with ⟨absent, rfl⟩ | ⟨present, n, two, rfl, absent, before⟩
  · rcases freeToo with ⟨-, rfl⟩ | ⟨presentToo, -⟩
    · exact .inl rfl
    · exact .inr presentToo
  · rcases freeToo with ⟨-, rfl⟩ | ⟨-, m, twoToo, rfl, -, beforeToo⟩
    · exact absurd present untaken
    · rcases Nat.lt_trichotomy n m with less | rfl | more
      · exact .inr (beforeToo n two less)
      · exact .inl rfl
      · exact absurd (before m twoToo more) untaken

section Hints

/-- What the parts that actions are made of are called after. -/
def partHints : List String := "lambda" :: Automation.templates.map fun template => (CppType.named template).nameHint

def IsPartName (name : String) : Prop := ∃ hint ∈ partHints, IsCalledAfter hint name

theorem objects_apart_from_parts :
    ∀ type ∈ objectTypes, ∀ hint ∈ partHints, areApart type.nameHint hint = true := by
  decide +kernel

theorem automations_apart :
    ∀ type ∈ objectTypes, type ≠ Automation.type → areApart Automation.type.nameHint type.nameHint = true := by
  decide +kernel

theorem isName_partHints : ∀ hint ∈ partHints, isName hint = true := by
  decide +kernel

/-- What is called after the type of an object is no part of an action. -/
theorem IsCalledAfter.not_isPartName {type : CppType} (listed : type ∈ objectTypes)
    (called : IsCalledAfter type.nameHint name) : ¬IsPartName name := by
  rintro ⟨hint, member, calledToo⟩
  exact called.not_of_apart (objects_apart_from_parts type listed hint member) calledToo

theorem isPartName_fresh (member : hint ∈ partHints) (taken : List String) :
    IsPartName (fresh (toName hint) taken) := by
  rw [toName_of_isName (isName_partHints hint member)]
  exact ⟨hint, member, (isFirstFree_fresh hint taken).isCalledAfter⟩

end Hints

end DeviceConfig.Cpp
