import DeviceConfig.Proofs.Lists
import DeviceConfig.Schema.Identifiers

/-!
What may stand for what: the types are partially ordered by descent, so that a reference that fits a type fits
all ancestors of the type too (`CppType.descendsFrom_partialOrder`).
-/

namespace DeviceConfig

namespace CppType

variable {type other wider : CppType} {name : String}

/-- The ancestors of a class are listed with their own ancestors, and none is the class itself. -/
theorem classes_closed : ∀ entry ∈ classes, ∀ parent ∈ entry.2,
    entry.1 ≠ parent ∧ ∀ ancestor ∈ (named parent).ancestors, ancestor ∈ entry.2 := by
  decide +kernel

theorem exists_class_of_mem_ancestors (member : name ∈ type.ancestors) : (type.name, type.ancestors) ∈ classes := by
  rw [ancestors] at member ⊢
  split at member
  · rename_i ancestors found
    have same := key_of_find? found
    exact same ▸ List.mem_of_find?_eq_some found
  · cases member

theorem mem_ancestors_trans (parent : other.name ∈ type.ancestors) (above : name ∈ other.ancestors) :
    name ∈ type.ancestors :=
  (classes_closed _ (exists_class_of_mem_ancestors parent) _ parent).2 name above

theorem name_notMem_ancestors (type : CppType) : type.name ∉ type.ancestors := fun own =>
  (classes_closed _ (exists_class_of_mem_ancestors own) _ own).1 rfl

theorem descendsFrom_iff : type.descendsFrom other = true ↔
    type = other ∨ type.isPointer = other.isPointer ∧ other.args = [] ∧ other.name ∈ type.ancestors := by
  unfold descendsFrom
  by_cases same : type = other
  · simp [same]
  · rw [if_neg same]
    by_cases alike : type.isPointer = other.isPointer <;> cases other.args <;> simp [same, alike]

theorem descendsFrom_refl (type : CppType) : type.descendsFrom type = true := descendsFrom_iff.mpr (.inl rfl)

theorem descendsFrom_trans (first : type.descendsFrom other = true) (second : other.descendsFrom wider = true) :
    type.descendsFrom wider = true := by
  rcases descendsFrom_iff.mp first with rfl | ⟨alike, -, parent⟩
  · exact second
  · rcases descendsFrom_iff.mp second with rfl | ⟨alikeToo, plain, above⟩
    · exact first
    · exact descendsFrom_iff.mpr (.inr ⟨alike.trans alikeToo, plain, mem_ancestors_trans parent above⟩)

theorem descendsFrom_antisymm (down : type.descendsFrom other = true) (up : other.descendsFrom type = true) :
    type = other := by
  rcases descendsFrom_iff.mp down with same | ⟨-, -, parent⟩
  · exact same
  · rcases descendsFrom_iff.mp up with same | ⟨-, -, child⟩
    · exact same.symm
    · exact absurd (mem_ancestors_trans parent child) type.name_notMem_ancestors

end CppType

namespace Placed

variable {declared : List Placed} {use : Placed}

theorem checkUse_eq_none_iff : checkUse declared use = none ↔
    ∃ found, find? use.id.name declared = some found ∧ found.id.type.descendsFrom use.id.type = true := by
  rw [checkUse]
  cases find? use.id.name declared with
  | none => simp
  | some found => simp

/-- The reference with another type that is expected of its object. -/
def expecting (use : Placed) (type : CppType) : Placed := { use with id := { use.id with type := type } }

end Placed

/-- Descent is a partial order of all types, and with a type each of its ancestors accepts a reference. -/
theorem CppType.descendsFrom_partialOrder :
    (∀ a : CppType, a.descendsFrom a = true) ∧
    (∀ a b c : CppType, a.descendsFrom b = true → b.descendsFrom c = true → a.descendsFrom c = true) ∧
    (∀ a b : CppType, a.descendsFrom b = true → b.descendsFrom a = true → a = b) ∧
    ∀ (declared : List Placed) (use : Placed) (ancestor : CppType), Placed.checkUse declared use = none →
      use.id.type.descendsFrom ancestor = true →
      Placed.checkUse declared (use.expecting ancestor) = none := by
  refine ⟨CppType.descendsFrom_refl, fun _ _ _ => CppType.descendsFrom_trans,
    fun _ _ => CppType.descendsFrom_antisymm, fun declared use ancestor accepted above => ?_⟩
  obtain ⟨found, known, fits⟩ := Placed.checkUse_eq_none_iff.mp accepted
  exact Placed.checkUse_eq_none_iff.mpr ⟨found, known, CppType.descendsFrom_trans fits above⟩

/-- A template switch that serves as a switch serves as whatever has a name, but not the other way round. -/
theorem CppType.descendsFrom_partialOrder_fan :
    let fan : Placed := ⟨.declared "fan" (named "switch_::TemplateSwitch"), .root⟩
    let use : Placed := ⟨.used "fan" (named "switch_::Switch"), .root⟩
    Placed.checkUse [fan] use = none ∧ use.id.type.descendsFrom (named "Nameable") = true ∧
    Placed.checkUse [fan] (use.expecting (named "Nameable")) = none ∧
    (named "Nameable").descendsFrom (named "switch_::Switch") = false := by
  intro fan use
  have accepted : Placed.checkUse [fan] use = none := rfl
  have above : use.id.type.descendsFrom (named "Nameable") = true := rfl
  obtain ⟨-, -, antisymm, kept⟩ := descendsFrom_partialOrder
  refine ⟨accepted, above, kept [fan] use _ accepted above, Bool.eq_false_iff.mpr fun down => ?_⟩
  exact absurd (antisymm _ _ down above) (by decide)

end DeviceConfig
