import DeviceConfig.Proofs.Assembly.Programs
import DeviceConfig.Proofs.CppType.Words

/-!
Which of the bound names clash with what else the main file is made of: only `delay` and the words of its
types can, and only where the user gave them (`Catalog.clashes_iff`).
-/

namespace DeviceConfig

namespace Program

/-- The types that are written in the main file: those of the global declarations and those in the statements. -/
def renderedTypes (p : Program) : List CppType :=
  p.statements.filterMap (fun statement => statement.bound?.map fun symbol => (p.symbols.current symbol).type) ++
    p.expanded.flatMap Cpp.Statement.types

def typeWords (p : Program) : List String := p.renderedTypes.flatMap CppType.words

/-- The names that the main file uses besides those that it binds: its functions, its objects and namespaces, and
    the words of its types. -/
def usedNames (p : Program) : List String :=
  ["App", "setup", "loop", "delay", "esphomelib", "std"] ++ p.typeWords

end Program

namespace Cpp

/-- All names that a bound name may clash with. -/
def takenNames : List String := "delay" :: keywords ++ programNames ++ CppType.vocabularyWords

theorem not_prefix_takenNames :
    ∀ hint ∈ hints, ∀ name ∈ takenNames, (toName hint).toList.isPrefixOf name.toList = false := by
  decide +kernel

/-- Names that are made up clash with none. -/
theorem IsGenerated.notMem_takenNames {name : String} (generated : IsGenerated name) : name ∉ takenNames := by
  obtain ⟨hint, member, made⟩ := generated
  intro taken
  have none := not_prefix_takenNames hint member name taken
  rw [List.isPrefixOf_iff_prefix.mpr made] at none
  cases none

theorem mem_takenNames_of_isReserved {name : String} (reserved : isReserved name = true) : name ∈ takenNames := by
  rw [isReserved, Bool.or_eq_true, List.contains_iff_mem, List.contains_iff_mem] at reserved
  refine List.mem_append_left _ ?_
  rcases reserved with keyword | program
  · exact List.mem_append_left _ (List.mem_cons_of_mem _ keyword)
  · exact List.mem_append_right _ program

theorem IsGenerated.not_isReserved {name : String} (generated : IsGenerated name) : isReserved name = false := by
  rw [← Bool.not_eq_true]
  exact fun reserved => generated.notMem_takenNames (mem_takenNames_of_isReserved reserved)

end Cpp

namespace Draft.Built

variable {users codes : List String} {d : Draft} (built : d.Built users codes)
include built

/-- The definitions of inline names bring no types but those that there are. -/
theorem known_expanded {statement : Cpp.Statement} (member : statement ∈ d.statements) :
    ∀ type ∈ (statement.expand d.symbols).types, type.Known := by
  have void : CppType.void.Known := by decide
  have own : ∀ type ∈ statement.types, type.Known := by
    rw [statement.types_eq]
    exact (built.tidy.fits statement member .void).types void
  refine statement.forall_types_substitute own fun symbol _ => ?_
  rcases d.symbols.expansion_cases symbol with same | ⟨found, held, inline, defined⟩
  · rw [same]
    exact List.forall_mem_nil _
  · have listed : found ∈ d.symbols.lambdas :=
      List.mem_filter.mpr ⟨List.mem_of_find?_eq_some held, decide_eq_true inline⟩
    exact built.tidy.inner found listed _ defined

theorem known_bound (complete : d.Complete users) {statement : Cpp.Statement} (member : statement ∈ d.statements)
    {symbol : Cpp.Symbol} (bound : statement.bound? = some symbol) : (d.symbols.current symbol).type.Known := by
  have inside : symbol.name ∈ boundNames d.statements :=
    List.mem_filterMap.mpr ⟨statement, member, by rw [bound]; rfl⟩
  obtain ⟨found, held, pointer, -⟩ := (complete.sound.bound _).mp inside
  rw [Symbols.current, held]
  refine built.tidy.typed found (List.mem_of_find?_eq_some held) ?_
  rw [pointer]
  decide

theorem typeWords (complete : d.Complete users) (metadata : Metadata) (config : Node) :
    ∀ word ∈ (Program.mk d.statements d.symbols metadata config).typeWords, word ∈ CppType.vocabularyWords := by
  intro word member
  obtain ⟨type, rendered, inside⟩ := List.mem_flatMap.mp member
  refine CppType.Known.words ?_ word inside
  rcases List.mem_append.mp rendered with global | written
  · obtain ⟨statement, held, named⟩ := List.mem_filterMap.mp global
    obtain ⟨symbol, bound, rfl⟩ := Option.map_eq_some_iff.mp named
    exact built.known_bound complete held bound
  · obtain ⟨expanded, listed, inType⟩ := List.mem_flatMap.mp written
    obtain ⟨statement, held, rfl⟩ := List.mem_map.mp listed
    exact built.known_expanded held type inType

end Draft.Built

namespace Catalog

/-- The names that users declare are not reserved. -/
theorem not_isReserved_of_check {document config : Node} (checked : standard.check document = .ok config)
    (differ : document.value.keysDiffer = true) :
    ∀ name ∈ config.value.declaredNames, Cpp.isReserved name = false := by
  obtain ⟨sections, rfl, accepted⟩ := accepted_of_check checked differ
  intro name member
  obtain ⟨id, inside, declared, rfl⟩ := Value.mem_ids_of_mem_declaredNames member
  refine (accepted.normal.objects id inside ?_).2 declared
  rw [declared]
  decide

/-- What is known of the bound names and of the words in the types of a program. -/
theorem names_of_compile {placement : Placement} {document : Node} {program : Program}
    (compiled : standard.compile placement document = .ok program)
    (differ : document.value.keysDiffer = true) :
    (∀ name ∈ program.config.value.declaredNames,
      Cpp.isReserved name = false ∧ name ∈ boundNames program.statements) ∧
    (∀ name ∈ boundNames program.statements, name ∈ program.config.value.declaredNames ∨ Cpp.IsGenerated name) ∧
    ∀ word ∈ program.typeWords, word ∈ CppType.vocabularyWords := by
  obtain ⟨draft, complete, built, whole, checked⟩ := built_of_compile compiled differ
  have free := not_isReserved_of_check checked differ
  generalize program.config = config at complete built whole free
  subst whole
  refine ⟨fun name user => ⟨free name user, complete.bound_of_user user⟩, fun name bound => ?_,
    built.typeWords complete _ _⟩
  obtain ⟨found, held, -⟩ := (complete.sound.bound name).mp bound
  exact built.names name (Symbols.mem_names_of_find? held)

/-- No bound name is a keyword, nor any other reserved name. Among the names that the main file uses besides, the
    bound ones are just those that the user declared for objects: `delay`, and words of its types. -/
theorem clashes_iff {placement : Placement} {document : Node} {program : Program}
    (compiled : standard.compile placement document = .ok program)
    (differ : document.value.keysDiffer = true) (name : String) :
    (name ∈ boundNames program.statements → Cpp.isReserved name = false) ∧
    (name ∈ boundNames program.statements ∧ name ∈ program.usedNames ↔
      name ∈ program.config.value.declaredNames ∧ (name = "delay" ∨ name ∈ program.typeWords)) := by
  obtain ⟨users, bound, words⟩ := names_of_compile compiled differ
  have free : name ∈ boundNames program.statements → Cpp.isReserved name = false :=
    fun inside => (bound name inside).elim (fun user => (users name user).1) Cpp.IsGenerated.not_isReserved
  refine ⟨free, fun ⟨inside, used⟩ => ?_, fun ⟨user, clash⟩ => ⟨(users name user).2, ?_⟩⟩
  · have clash : name = "delay" ∨ name ∈ program.typeWords := by
      rcases List.mem_append.mp used with fixed | word
      · have others : ∀ other ∈ ["App", "setup", "loop", "delay", "esphomelib", "std"],
            Cpp.isReserved other = false → other = "delay" := by decide
        exact .inl (others name fixed (free inside))
      · exact .inr word
    refine ⟨(bound name inside).resolve_right fun generated => generated.notMem_takenNames ?_, clash⟩
    rcases clash with rfl | word
    · exact List.mem_cons_self
    · exact List.mem_append_right _ (words name word)
  · rcases clash with rfl | word
    · exact List.mem_append_left _ (by decide)
    · exact List.mem_append_right _ word

theorem no_clash_fan : ∃ program, standard.compile samplePlacement (Node.atRoot fan) = .ok program ∧
    "fan" ∈ boundNames program.statements ∧ "fan" ∉ program.usedNames := by
  obtain ⟨program, compiled, -, config⟩ := compile_fan
  obtain ⟨users, -, words⟩ := names_of_compile compiled rfl
  have user : "fan" ∈ program.config.value.declaredNames := by
    rw [config]
    decide +kernel
  have bound := (users "fan" user).2
  refine ⟨program, compiled, bound, fun used => ?_⟩
  rcases ((clashes_iff compiled rfl "fan").2.mp ⟨bound, used⟩).2 with same | word
  · exact absurd same (by decide)
  · exact absurd (words "fan" word) (by decide +kernel)

/-- A device with a switch that is called like the function that the main loop calls. -/
def pause : Value := .map [
  ("core", .map [
    ("name", .string "dev"), ("platform", .string "ESP32"), ("board", .string "d1"),
    ("use_custom_code", .bool false)]),
  ("switch", .list [.map [
    ("platform", .string "template"), ("name", .string "Pause"),
    ("id", .id ⟨"delay", Switch.templateType, .declared⟩)]])]

theorem clash_pause : ∃ program, standard.compile samplePlacement (Node.atRoot pause) = .ok program ∧
    "delay" ∈ boundNames program.statements ∧ "delay" ∈ program.usedNames := by
  have checked : standard.check (Node.atRoot pause) = .ok (Node.atRoot pause) := rfl
  obtain ⟨sections, whole, accepted⟩ := accepted_of_check checked rfl
  cases whole
  rcases generate_cases accepted samplePlacement .root with ⟨draft, complete, same⟩ | ⟨e, -, fault⟩
  · refine ⟨_, bind_eq_ok_iff.mpr ⟨_, checked, same⟩, complete.bound_of_user (by decide +kernel), ?_⟩
    exact List.mem_append_left _ (by decide)
  · exact absurd fault (Lambda.not_faultOf_nil e)

end Catalog

end DeviceConfig
