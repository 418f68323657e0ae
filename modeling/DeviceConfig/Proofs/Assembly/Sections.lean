import DeviceConfig.Proofs.Assembly.Core
import DeviceConfig.Proofs.Assembly.Switches
import DeviceConfig.Proofs.Generation.Sections
import DeviceConfig.Proofs.Program.History

/-!
What building all sections of a checked document leaves: just its lambdas, each of them used once, and no names but
those of the user and those that are made up (`Draft.Built`).
-/

namespace DeviceConfig

namespace Build

open Draft

variable {d : Draft} {names : List String} {fits : CppType → Prop}

/-- Nothing but objects of fitting types has been declared. -/
structure Blank (fits : CppType → Prop) (d : Draft) : Prop where
  differ : d.symbols.names.Nodup
  objects : ∀ declaration ∈ d.symbols.declarations,
    declaration.symbol.binding = .pointer ∧ fits declaration.symbol.type
  nothing : d.statements = []

theorem blank_start (paths : BuildFolders) : Blank fits (.start paths) :=
  ⟨List.nodup_nil, List.forall_mem_nil _, rfl⟩

theorem blank_declareAhead (blank : Blank fits d) {id : ObjectId} (typed : fits id.type) :
    Ensures (declareAhead id) d fun _ next => Blank fits next := by
  have differ := Symbols.nodup_after blank.differ (.declareObject id .pointer)
  have objects : ∀ declaration ∈ (d.symbols.declareObject id .pointer).2.declarations,
      declaration.symbol.binding = .pointer ∧ fits declaration.symbol.type := by
    rw [Symbols.declareObject_declarations]
    intro declaration member
    rcases List.mem_append.mp member with before | new
    · exact blank.objects declaration before
    · rw [List.mem_singleton.mp new]
      exact ⟨rfl, typed⟩
  exact yields_bind (yields_get (yields_bind (yields_setSymbols (yields_pure ⟨differ, objects, blank.nothing⟩))))

theorem blank_declareAllAhead {ids : List ObjectId} (typed : ∀ id ∈ ids, fits id.type) (blank : Blank fits d) :
    Ensures (declareAllAhead ids) d fun _ next => Blank fits next := by
  induction ids generalizing d with
  | nil => exact yields_pure blank
  | cons id rest ih =>
    rw [declareAllAhead]
    refine (blank_declareAhead blank (typed id List.mem_cons_self)).bind fun _ next first => ?_
    exact ih (fun other member => typed other (List.mem_cons_of_mem _ member)) first

theorem blank_declareSectionsAhead {sections : List (String × Node)}
    (typed : ∀ entry ∈ sections, ∀ id ∈ entry.2.declaredObjects, fits id.type) (blank : Blank fits d) :
    Ensures (declareSectionsAhead sections) d fun _ next => Blank fits next := by
  induction sections generalizing d with
  | nil => exact yields_pure blank
  | cons entry rest ih =>
    obtain ⟨key, node⟩ := entry
    have entered : Ensures (enter key) d fun _ next => Blank fits next :=
      yields_modify ⟨blank.differ, blank.objects, blank.nothing⟩
    rw [declareSectionsAhead]
    refine entered.bind fun _ first blank => ?_
    refine (blank_declareAllAhead (typed _ List.mem_cons_self) blank).bind fun _ second blank => ?_
    exact ih (fun other member => typed other (List.mem_cons_of_mem _ member)) blank

theorem Blank.tidy (blank : Blank CppType.Known d) (ahead : Ahead names d) : d.Tidy names := by
  refine ⟨blank.differ, ahead.aliases, fun name member => ?_, fun declaration member _ => ?_,
    fun declaration member => ?_, ?_⟩
  · obtain ⟨found, held, -, pointer⟩ := ahead.each name member
    exact ⟨found, held, pointer⟩
  · exact (blank.objects declaration member).2
  · obtain ⟨listed, inline⟩ := List.mem_filter.mp member
    cases (blank.objects declaration listed).1.symm.trans (of_decide_eq_true inline)
  · rw [blank.nothing]
    exact List.forall_mem_nil _

end Build

namespace Draft

/-- The draft has just the lambdas of these codes, each of which is used once, and the names of the user besides
    those that are made up. -/
structure Built (users codes : List String) (d : Draft) : Prop where
  tidy : d.Tidy users
  names : ∀ name ∈ d.symbols.names, name ∈ users ∨ Cpp.IsGenerated name
  lambdas : ∃ ordered : List String, ordered.Perm codes ∧
    List.Forall₂ (IsCompiled d.symbols.aliases) ordered d.symbols.lambdas
  uses : d.uses = d.symbols.lambdas.map (·.symbol.name)

theorem Compiles.built {users codes : List String} {d next : Draft} (compiles : Compiles users codes d next)
    (blank : Build.Blank CppType.Known d) (ahead : Build.Ahead users d) : next.Built users codes := by
  obtain ⟨ordered, added, perm, each, whole⟩ := compiles
  have none : d.symbols.lambdas = [] := by
    refine List.filter_eq_nil_iff.mpr fun declaration member => ?_
    rw [(blank.objects declaration member).1]
    decide
  have lambdas : next.symbols.lambdas = added := by rw [whole.lambdas, none, List.nil_append]
  refine ⟨whole.tidy, fun name member => ?_, ⟨ordered, perm, ?_⟩, ?_⟩
  · refine (whole.names name member).imp_left fun before => ?_
    by_contra absent
    exact ahead.only name absent before
  · rw [whole.aliases, lambdas]
    exact each
  · rw [whole.uses, lambdas, uses, blank.nothing]
    rfl

end Draft

namespace Catalog

open Build Draft

variable {users : List String} {d : Draft}

theorem compiles_buildSections {sections : Entries Value}
    (normal : ∀ entry ∈ sections, ∃ component, standard.component? entry.1 = some component ∧
      component.schema.Normal entry.2)
    (suits : ∀ entry ∈ sections, entry.2.Suits users) (tidy : d.Tidy users) (path : Path) :
    Ensures (standard.buildSections (sections.map fun entry => (entry.1, ⟨path.key entry.1, entry.2⟩))) d
      fun _ next => Compiles users (sections.flatMap fun entry => entry.2.lambdas) d next := by
  induction sections generalizing d with
  | nil => exact yields_pure (.refl tidy)
  | cons entry rest ih =>
    obtain ⟨key, value⟩ := entry
    obtain ⟨component, found, own⟩ := normal (key, value) List.mem_cons_self
    have inside := suits (key, value) List.mem_cons_self
    have build {next : Draft} (tidy : next.Tidy users) : Ensures (component.build ⟨path.key key, value⟩) next
        fun _ last => Compiles users value.lambdas next last := by
      rcases standard_component_cases found with ⟨-, rfl⟩ | ⟨-, rfl⟩
      · exact Core.compiles_buildSection tidy own inside
      · exact Switch.compiles_buildSection tidy own inside
    rw [List.map_cons, buildSections, List.flatMap_cons]
    simp only [found]
    refine (compiles_enter tidy key).bind fun _ first entered => ?_
    refine (build entered.tidy).bind fun _ second built => ?_
    have here := entered.trans built
    refine (ih (fun other member => normal other (List.mem_cons_of_mem _ member))
      (fun other member => suits other (List.mem_cons_of_mem _ member)) here.tidy).mono fun _ last others => ?_
    exact here.trans others

/-- Ahead of building, a checked document has just its names of users declared, for objects of its types. -/
theorem ensures_declareAhead {fits : CppType → Prop} {sections : Entries Value} (accepted : Accepted sections)
    (typed : ∀ id ∈ (Value.map sections).ids, id.role = .declared → fits id.type) (path : Path)
    (paths : BuildFolders) :
    Ensures (declareSectionsAhead ((ordered sections).map fun entry => (entry.1, ⟨path.key entry.1, entry.2⟩)))
      (.start paths) fun _ draft => Ahead (Value.map sections).declaredNames draft ∧ Blank fits draft := by
  refine (@yields_declareAhead (fun _ => True) _ accepted path paths).and
    (blank_declareSectionsAhead (fun entry member id declared => ?_) (blank_start paths))
  obtain ⟨before, held, rfl⟩ := List.mem_map.mp member
  obtain ⟨p, kept, rfl⟩ := List.mem_map.mp declared
  obtain ⟨inside, role⟩ := (Node.mem_ids_iff _).mpr ⟨p, kept, rfl⟩
  refine typed _ ?_ role
  rw [Value.ids_map]
  exact List.mem_flatMap.mpr ⟨before, (ordered_perm sections).mem_iff.mp held, inside⟩

/-- What building a checked document leaves if it does not fail. -/
theorem ensures_buildAll {sections : Entries Value} (accepted : Accepted sections)
    (suits : (Value.map sections).Suits (Value.map sections).declaredNames) (path : Path) (paths : BuildFolders) :
    Ensures (standard.buildAll ⟨path, .map sections⟩) (.start paths) fun _ draft =>
      draft.Built (Value.map sections).declaredNames (Value.map sections).lambdas := by
  have perm := ordered_perm sections
  have known : ∀ id ∈ (Value.map sections).ids, id.role = .declared → id.type.Known := fun id inside role =>
    (suits.ids id inside (by rw [role]; decide)).type
  have lambdas : ((ordered sections).flatMap fun entry => entry.2.lambdas).Perm (Value.map sections).lambdas := by
    rw [Value.lambdas_map]
    exact perm.flatMap_right _
  rw [buildAll, buildOrder_eq]
  refine (ensures_declareAhead accepted known path paths).bind fun _ first both => ?_
  obtain ⟨declared, blank⟩ := both
  refine (compiles_buildSections (fun entry member => accepted.normal.each entry (perm.mem_iff.mp member))
    (fun entry member => suits.entry (perm.mem_iff.mp member)) (blank.tidy declared) path).mono
    fun _ last compiles => (compiles.perm lambdas).built blank declared

end Catalog

end DeviceConfig
