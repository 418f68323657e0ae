import DeviceConfig.Proofs.Check.Sections
import DeviceConfig.Proofs.Identifiers.Resolved
import DeviceConfig.Proofs.Schema.Declarations
import DeviceConfig.Proofs.Schema.Keys

/-!
Everything that building a program relies on in a document that was checked (`Catalog.Accepted`).
-/

namespace DeviceConfig.Catalog

/-- The sections of a checked document: they are in normal form, and their names fit together. -/
structure Accepted (sections : Entries Value) : Prop where
  normal : standard.Normal sections
  differ : (Value.map sections).keysDiffer = true
  once : (Value.map sections).declaredNames.Nodup
  known : ∀ id ∈ (Value.map sections).ids, id.role = .used → id.name ∈ (Value.map sections).declaredNames
  named : ∀ name ∈ (Value.map sections).declaredNames, Cpp.isName name = true

theorem standard_component_cases {key : String} {component : Component}
    (found : standard.component? key = some component) :
    key = Core.key ∧ component = Core.component ∨ key = "switch" ∧ component = Switch.component := by
  have member := Entries.mem_of_get? found
  rw [standard_components] at member
  rcases List.mem_cons.mp member with core | rest
  · cases core
    exact .inl ⟨rfl, rfl⟩
  · cases List.mem_singleton.mp rest
    exact .inr ⟨rfl, rfl⟩

theorem standard_defaultsDiffer {key : String} {component : Component}
    (found : standard.component? key = some component) :
    component.schema.everywhere Schema.defaultsDiffer = true := by
  rcases standard_component_cases found with ⟨-, rfl⟩ | ⟨-, rfl⟩
  · rfl
  · rfl

theorem standard_isClosed {key : String} {component : Component}
    (found : standard.component? key = some component) :
    component.schema.everywhere (Schema.closedAnd fun _ => true) = true ∧ component.schema.isOpen = false := by
  rcases standard_component_cases found with ⟨-, rfl⟩ | ⟨-, rfl⟩
  · exact ⟨rfl, rfl⟩
  · exact ⟨rfl, rfl⟩

theorem keysDiffer_of_checkEntries {document config : Node} (accepted : standard.checkEntries document = .ok config)
    (differ : document.value.keysDiffer = true) : config.value.keysDiffer = true := by
  obtain ⟨present, sections, rfl, related⟩ := checkEntries_eq_ok_iff.mp accepted
  obtain ⟨path, value⟩ := document
  cases value with
  | map entries =>
    obtain ⟨distinct, inner⟩ := Value.keysDiffer_map.mp differ
    have keys : Entries.keys sections = Entries.keys entries := by
      have same := FieldSet.keys_eq_of_forall₂ (fun _ _ _ both => both.1.symm) related
      rw [same, Node.entries, List.map_map]
      rfl
    refine Value.keysDiffer_map.mpr ⟨?_, fun entry member => ?_⟩
    · rw [Entries.Distinct, keys]
      exact distinct
    · obtain ⟨⟨key, node⟩, inside, -, checked⟩ := exists_mem_left_of_forall₂ related member
      obtain ⟨component, found, given⟩ := checkSection_eq_ok_iff.mp checked
      obtain ⟨before, held, same⟩ := List.mem_map.mp inside
      obtain ⟨rfl, rfl⟩ := Prod.mk.inj same
      exact Schema.keysDiffer_of_check (isStable_standard _ _ found).1 (standard_defaultsDiffer found) given
        (inner before held)
  | _ => cases present

/-- An identifier stands in what one of the components reads. -/
theorem Normal.exists_component {sections : Entries Value} (normal : standard.Normal sections) {id : ObjectId}
    (member : id ∈ (Value.map sections).ids) : ∃ key component value,
      standard.component? key = some component ∧ component.schema.Normal value ∧ id ∈ value.ids := by
  rw [Value.ids_map] at member
  obtain ⟨⟨key, value⟩, inside, deeper⟩ := List.mem_flatMap.mp member
  obtain ⟨component, found, own⟩ := normal.each _ inside
  exact ⟨key, component, value, found, own, deeper⟩

theorem Normal.isName_ids {sections : Entries Value} (normal : standard.Normal sections) :
    ∀ id ∈ (Value.map sections).ids, Cpp.isName id.name = true := by
  intro id member
  obtain ⟨key, component, value, found, own, inside⟩ := normal.exists_component member
  obtain ⟨closed, shut⟩ := standard_isClosed found
  exact own.isName_ids closed shut id inside

/-- The names that are left give no problems when they are resolved again. -/
theorem resolveIdentifiers_of_check {document config : Node} (accepted : standard.check document = .ok config) :
    config.resolveIdentifiers = ([], config) := by
  obtain ⟨checked, -, resolved⟩ := check_eq_ok_iff.mp accepted
  have named : checked.named = config := by
    rw [Node.resolveIdentifiers_eq] at resolved
    exact (Prod.mk.inj resolved).2
  rw [← named, Node.resolveIdentifiers_named]
  exact resolved.trans (by rw [named])

/-- Identifiers that were made up are called after their types. -/
theorem name_of_check {document config : Node} (accepted : standard.check document = .ok config) {id : ObjectId}
    (member : id ∈ config.value.ids) (made : id.role = .generated) :
    ∃ taken, id.name = Cpp.fresh id.type.nameHint taken := by
  have again := resolveIdentifiers_of_check accepted
  rw [Node.resolveIdentifiers_eq] at again
  have renames := config.renames_named
  rw [(Prod.mk.inj again).2] at renames
  have each := List.forall₂_same.mp (renames.identifiers config.path)
  obtain ⟨p, inside, rfl⟩ := config.mem_ids_iff.mp ⟨member, made⟩
  obtain ⟨-, taken, same⟩ := each p (List.mem_of_mem_filter inside)
  rw [ObjectId.rename_generated made] at same
  exact ⟨taken, (congrArg ObjectId.name same).symm⟩

theorem accepted_of_check {document config : Node} (accepted : standard.check document = .ok config)
    (differ : document.value.keysDiffer = true) :
    ∃ sections, config = ⟨document.path, .map sections⟩ ∧ Accepted sections := by
  obtain ⟨checked, given, resolved⟩ := check_eq_ok_iff.mp accepted
  have keys := keysDiffer_of_checkEntries given differ
  obtain ⟨sections, rfl, normal⟩ := checkEntries_gives isStable_standard given
  let before : Node := ⟨document.path, .map sections⟩
  have config_eq : before.named = config := by
    rw [Node.resolveIdentifiers_eq] at resolved
    exact (Prod.mk.inj resolved).2
  have renames : (Value.map sections).Renames config.value := config_eq ▸ before.renames_named
  obtain ⟨named, value_eq, namedNormal⟩ := normal.rename isStable_standard renames
  have whole : config = ⟨document.path, .map named⟩ := by
    rw [← value_eq, ← config_eq]
    rfl
  have again := resolveIdentifiers_of_check accepted
  obtain ⟨once, known⟩ := Node.names_of_resolveIdentifiers again
  rw [value_eq] at once known
  refine ⟨named, whole, namedNormal, ?_, once, known, fun name member => ?_⟩
  · exact value_eq ▸ renames.keysDiffer keys
  · obtain ⟨id, inside, -, rfl⟩ := Value.mem_ids_of_mem_declaredNames member
    exact namedNormal.isName_ids id inside

end DeviceConfig.Catalog
