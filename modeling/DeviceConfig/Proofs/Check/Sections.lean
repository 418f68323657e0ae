import DeviceConfig.Compile
import DeviceConfig.Proofs.Schema.Naming

/-!
What checking a document leaves: sections in normal form (`Catalog.Normal`) whose made-up identifiers are
named (`Catalog.check_gives`).
-/

namespace DeviceConfig

namespace Catalog

/-- The schemas of the catalog normalize what they accept, and name objects properly. -/
def IsStable (catalog : Catalog) : Prop :=
  ∀ key component, catalog.component? key = some component →
    component.schema.everywhere Schema.isStable = true ∧ component.schema.everywhere Schema.namesWell = true

theorem standard_components : standard.components = [(Core.key, Core.component), ("switch", Switch.component)] :=
  rfl

theorem isStable_standard : standard.IsStable := by
  intro key component found
  have member := Entries.mem_of_get? found
  rw [standard_components] at member
  rcases List.mem_cons.mp member with core | rest
  · cases core
    exact ⟨rfl, rfl⟩
  · cases List.mem_singleton.mp rest
    exact ⟨rfl, rfl⟩

/-- A document that has the section every document needs and whose sections are all in normal form. -/
structure Normal (catalog : Catalog) (sections : Entries Value) : Prop where
  core : Core.key ∈ Entries.keys sections
  each : ∀ entry ∈ sections, ∃ component, catalog.component? entry.1 = some component ∧
    component.schema.Normal entry.2

variable {catalog : Catalog}

theorem checkSection_eq_ok_iff {key : String} {node : Node} {value : Value} :
    catalog.checkSection key node = .ok value ↔
      ∃ component, catalog.component? key = some component ∧ component.schema.check node = .ok value := by
  rw [checkSection]
  cases catalog.component? key with
  | none => simp
  | some component =>
    simp only [Option.some.injEq, exists_eq_left']
    cases component.schema.check node <;> simp

theorem checkSections_eq_iff {nodes : List (String × Node)} {sections : Entries Value} :
    catalog.checkSections nodes = ([], sections) ↔
      List.Forall₂ (fun (node : String × Node) (entry : String × Value) =>
        entry.1 = node.1 ∧ catalog.checkSection node.1 node.2 = .ok entry.2) nodes sections := by
  induction nodes generalizing sections with
  | nil => simp [checkSections, eq_comm]
  | cons first rest ih =>
    obtain ⟨key, node⟩ := first
    rw [checkSections, List.forall₂_cons_left_iff]
    rcases found : catalog.checkSections rest with ⟨problems, others⟩
    cases checked : catalog.checkSection key node with
    | error problem =>
      constructor
      · intro accepted
        cases accepted
      · rintro ⟨entry, tail, ⟨-, accepted⟩, -⟩
        cases accepted
    | ok value =>
      constructor
      · intro accepted
        simp only [Prod.mk.injEq] at accepted
        obtain ⟨rfl, rfl⟩ := accepted
        exact ⟨(key, value), others, ⟨rfl, rfl⟩, ih.mp found, rfl⟩
      · rintro ⟨⟨otherKey, other⟩, tail, ⟨same, accepted⟩, related, rfl⟩
        obtain rfl : otherKey = key := same
        cases accepted
        rw [ih.mpr related] at found
        cases found
        rfl

theorem checkEntries_eq_ok_iff {document config : Node} :
    catalog.checkEntries document = .ok config ↔
      document.contains Core.key = true ∧ ∃ sections, config = ⟨document.path, .map sections⟩ ∧
        List.Forall₂ (fun (node : String × Node) (entry : String × Value) =>
          entry.1 = node.1 ∧ catalog.checkSection node.1 node.2 = .ok entry.2) document.entries sections := by
  rw [checkEntries]
  rcases found : catalog.checkSections document.entries with ⟨problems, sections⟩
  cases held : document.contains Core.key with
  | false => simp
  | true =>
    simp only [if_true, List.nil_append, true_and]
    cases problems with
    | nil =>
      have related := checkSections_eq_iff.mp found
      constructor
      · intro accepted
        cases accepted
        exact ⟨sections, rfl, related⟩
      · rintro ⟨others, rfl, also⟩
        rw [checkSections_eq_iff.mpr also] at found
        cases found
        rfl
    | cons problem problems =>
      constructor
      · intro accepted
        cases accepted
      · rintro ⟨others, -, also⟩
        rw [checkSections_eq_iff.mpr also] at found
        cases found

theorem Normal.checkEntries_eq {sections : Entries Value} (normal : catalog.Normal sections) (path : Path) :
    catalog.checkEntries ⟨path, .map sections⟩ = .ok ⟨path, .map sections⟩ := by
  refine checkEntries_eq_ok_iff.mpr ⟨?_, sections, rfl, ?_⟩
  · rw [Node.contains, Node.get?, Option.isSome_map]
    exact Entries.contains_iff_mem_keys.mpr normal.core
  · rw [Node.entries, List.forall₂_map_left_iff]
    refine List.forall₂_same.mpr fun entry member => ⟨rfl, ?_⟩
    obtain ⟨component, found, own⟩ := normal.each entry member
    exact checkSection_eq_ok_iff.mpr ⟨component, found, own.check_eq _⟩

theorem checkEntries_gives (stable : catalog.IsStable) {document config : Node}
    (accepted : catalog.checkEntries document = .ok config) :
    ∃ sections, config = ⟨document.path, .map sections⟩ ∧ catalog.Normal sections := by
  obtain ⟨present, sections, rfl, related⟩ := checkEntries_eq_ok_iff.mp accepted
  refine ⟨sections, rfl, ?_, ?_⟩
  · have keys : Entries.keys sections = document.entries.map (·.1) :=
      FieldSet.keys_eq_of_forall₂ (fun _ _ _ both => both.1.symm) related
    rw [keys]
    obtain ⟨path, value⟩ := document
    cases value with
    | map entries =>
      rw [Node.contains, Node.get?, Option.isSome_map] at present
      rw [Node.entries, List.map_map]
      exact Entries.contains_iff_mem_keys.mp present
    | _ => cases present
  · intro entry member
    obtain ⟨⟨key, node⟩, -, same, checked⟩ := exists_mem_left_of_forall₂ related member
    obtain ⟨component, found, given⟩ := checkSection_eq_ok_iff.mp checked
    rw [same]
    exact ⟨component, found, Schema.normal_of_check (stable key component found).1 given⟩

theorem Normal.rename (stable : catalog.IsStable) {sections : Entries Value} (normal : catalog.Normal sections)
    {result : Value} (renames : (Value.map sections).Renames result) :
    ∃ named, result = .map named ∧ catalog.Normal named := by
  cases renames with
  | @map _ named keys values =>
    have pairs := Value.renames_map_iff.mp (.map keys values)
    refine ⟨named, rfl, keys ▸ normal.core, fun entry member => ?_⟩
    obtain ⟨before, inside, same, related⟩ := exists_mem_left_of_forall₂ pairs member
    obtain ⟨component, found, own⟩ := normal.each before inside
    rw [same]
    exact ⟨component, found, own.rename (stable _ _ found).2 related⟩
  | scalar scalar => cases scalar

/-- A document is accepted if its sections are and its identifiers fit together. -/
theorem check_eq_ok_iff {document config : Node} :
    catalog.check document = .ok config ↔
      ∃ checked, catalog.checkEntries document = .ok checked ∧ checked.resolveIdentifiers = ([], config) := by
  have resolves (checked : Node) : resolveIdentifiers checked = .ok config ↔
      checked.resolveIdentifiers = ([], config) := by
    rw [resolveIdentifiers]
    rcases checked.resolveIdentifiers with ⟨problems, resolved⟩
    cases problems <;> simp
  have sections : catalog.check document = .ok config ↔
      catalog.checkEntries document >>= resolveIdentifiers = .ok config := by
    obtain ⟨path, value⟩ := document
    cases value with
    | map entries => exact Iff.rfl
    | null => exact Iff.rfl
    | _ =>
      constructor
      · intro accepted
        cases accepted
      · intro accepted
        obtain ⟨checked, given, -⟩ := bind_eq_ok_iff.mp accepted
        cases (checkEntries_eq_ok_iff.mp given).1
  rw [sections, bind_eq_ok_iff]
  simp only [resolves]

/-- What checking leaves: sections in normal form, whose made-up identifiers are named. -/
theorem check_gives (stable : catalog.IsStable) {document config : Node}
    (accepted : catalog.check document = .ok config) :
    ∃ sections, catalog.Normal sections ∧
      (⟨document.path, .map sections⟩ : Node).resolveIdentifiers = ([], config) := by
  obtain ⟨checked, given, resolved⟩ := check_eq_ok_iff.mp accepted
  obtain ⟨sections, rfl, normal⟩ := checkEntries_gives stable given
  exact ⟨sections, normal, resolved⟩

end Catalog

end DeviceConfig
