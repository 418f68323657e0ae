import DeviceConfig.Proofs.Assembly.Sections
import DeviceConfig.Proofs.Generation.Programs
import DeviceConfig.Proofs.Program.Expansion

/-!
The lambdas of a program are those of its configuration, each under a name of its own, and each is written out once
(`Catalog.lambdas_once`).
-/

namespace DeviceConfig

namespace Schema

/-- Whether it declares none but objects of the listed types. -/
def declaresObjects : Schema → Bool
  | declareId type => objectTypes.contains type
  | _ => true

/-- What users declare in the normal forms of such a schema are the listed objects, under names that are free. -/
theorem Normal.forall_objects {schema : Schema} {value : Value} (normal : schema.Normal value)
    (objects : schema.everywhere (closedAnd declaresObjects) = true) (shut : schema.isOpen = false) :
    ∀ id ∈ value.ids, id.role ≠ .used →
      id.type ∈ objectTypes ∧ (id.role = .declared → Cpp.isReserved id.name = false) := by
  refine normal.forall_ids (fun rule => by cases rule <;> rfl) ?_ ?_ ?_ objects shut
  · intro schema composite
    cases schema <;> first | rfl | cases composite
  · intro type listed id admits _
    refine ⟨?_, fun declared => admits.notReserved ?_⟩
    · rw [admits.type_eq]
      simpa [declaresObjects] using listed
    · rw [declared]
      decide
  · intro type _ id admits object
    rcases admits.role_eq with used | ⟨-, no⟩
    · exact absurd used object
    · cases no

end Schema

namespace Catalog

theorem standard_declaresObjects {key : String} {component : Component}
    (found : standard.component? key = some component) :
    component.schema.everywhere (Schema.closedAnd Schema.declaresObjects) = true := by
  rcases standard_component_cases found with ⟨-, rfl⟩ | ⟨-, rfl⟩
  · rfl
  · rfl

theorem Normal.objects {sections : Entries Value} (normal : standard.Normal sections) :
    ∀ id ∈ (Value.map sections).ids, id.role ≠ .used →
      id.type ∈ objectTypes ∧ (id.role = .declared → Cpp.isReserved id.name = false) := by
  intro id member
  obtain ⟨key, component, value, found, own, inside⟩ := normal.exists_component member
  exact own.forall_objects (standard_declaresObjects found) (standard_isClosed found).2 id inside

theorem known_objectTypes : ∀ type ∈ objectTypes, type.Known ∧ Cpp.isName type.nameHint = true := by
  decide +kernel

/-- The identifiers of a checked document are as building it expects them. -/
theorem suits_of_check {document : Node} {path : Path} {sections : Entries Value}
    (checked : standard.check document = .ok ⟨path, .map sections⟩) (accepted : Accepted sections) :
    (Value.map sections).Suits (Value.map sections).declaredNames := by
  refine ⟨fun id member object => ?_, accepted.differ⟩
  obtain ⟨listed, -⟩ := accepted.normal.objects id member object
  obtain ⟨known, hint⟩ := known_objectTypes id.type listed
  refine ⟨known, fun made => ?_, fun declared => ?_⟩
  · obtain ⟨taken, named⟩ := name_of_check checked member made
    have inHints : id.type.nameHint ∈ Cpp.hints :=
      List.mem_cons_of_mem _ (List.mem_map_of_mem (List.mem_append_left _ listed))
    rw [Cpp.toName_of_isName (accepted.normal.isName_ids id member), named, ← Cpp.toName_of_isName hint]
    exact Cpp.isGenerated_fresh inHints taken
  · exact List.mem_map_of_mem (List.mem_filter.mpr ⟨member, decide_eq_true declared⟩)

/-- A program is made from a draft of which nothing is missing, with just the lambdas of the configuration. -/
theorem built_of_compile {placement : Placement} {document : Node} {program : Program}
    (compiled : standard.compile placement document = .ok program)
    (differ : document.value.keysDiffer = true) :
    ∃ draft : Draft, draft.Complete program.config.value.declaredNames ∧
      draft.Built program.config.value.declaredNames program.config.value.lambdas ∧
      program = ⟨draft.statements, draft.symbols, draft.metadata, program.config⟩ ∧
      standard.check document = .ok program.config := by
  obtain ⟨checked, draft, outcome, whole⟩ := exists_draft_of_compile compiled
  obtain ⟨sections, config, accepted⟩ := accepted_of_check checked differ
  rw [config] at checked outcome ⊢
  let paths := placement.paths ⟨document.path, .map sections⟩
  have ensures := (yields_buildAll accepted document.path paths).and
    (ensures_buildAll accepted (suits_of_check checked accepted) document.path paths)
  obtain ⟨complete, built⟩ := Build.ensures_iff.mp ensures _ draft outcome
  exact ⟨draft, complete, built, config ▸ whole, checked⟩

end Catalog

namespace Program

/-- The symbols that the statements mention, as often as they do. -/
def mentioned (p : Program) : List Cpp.Symbol := p.statements.flatMap Cpp.Statement.references

/-- The statements with the definitions of inline names in their places. -/
def expanded (p : Program) : List Cpp.Statement := p.statements.map (·.expand p.symbols)

end Program

namespace Symbols

end Symbols

namespace Draft

variable {users codes : List String} {d : Draft}

namespace Built

variable (built : d.Built users codes)
include built

theorem exists_code {declaration : Declaration} (member : declaration ∈ d.symbols.lambdas) :
    ∃ code, IsCompiled d.symbols.aliases code declaration := by
  obtain ⟨ordered, -, each⟩ := built.lambdas
  obtain ⟨code, -, compiled⟩ := exists_mem_left_of_forall₂ each member
  exact ⟨code, compiled⟩

theorem flat (complete : d.Complete users) : d.symbols.Flat := by
  refine ⟨fun name found definition held inline defined => ?_,
    fun name found definition held inline defined mentioned member => ?_⟩
  · have listed : found ∈ d.symbols.lambdas :=
      List.mem_filter.mpr ⟨List.mem_of_find?_eq_some held, decide_eq_true inline⟩
    obtain ⟨code, own, given, -, parameters, result, body, -, -, rfl, -⟩ := built.exists_code listed
    cases given.symm.trans defined
    exact ⟨_, _, _, _, rfl⟩
  · rcases complete.sound.kinds name found held with pointer | ⟨-, mentions⟩
    · cases pointer.symm.trans inline
    · obtain ⟨other, heldToo, pointer⟩ := complete.sound.declared _ (mentions definition defined mentioned member)
      rintro ⟨_, own, inlineToo⟩
      cases heldToo.symm.trans own
      cases pointer.symm.trans inlineToo

end Built

end Draft

namespace Catalog

end Catalog

end DeviceConfig
