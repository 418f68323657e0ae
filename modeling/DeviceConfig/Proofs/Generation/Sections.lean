import DeviceConfig.Proofs.Check.Accepted
import DeviceConfig.Proofs.Generation.Core
import DeviceConfig.Proofs.Generation.Switches
import DeviceConfig.Proofs.Program.Names

/-!
Building all sections of a checked document: the names that users declared are declared ahead, which
makes the draft sound, and then each section binds its own names, so that none waits in the end.
-/

namespace DeviceConfig

namespace Build

open Draft

variable {d : Draft} {names : List String} {fails : CompileError → Prop}

/-- Just these names were declared, and nothing was built. -/
structure Ahead (names : List String) (d : Draft) : Prop where
  aliases : ∀ name, Entries.get? name d.symbols.aliases = if name ∈ names then some name else none
  each : ∀ name ∈ names, ∃ found, d.symbols.find? name = some found ∧ found.definition = none ∧
    found.symbol.binding = .pointer
  only : ∀ name, name ∉ names → name ∉ d.symbols.names
  nothing : d.statements = []

theorem ahead_start (paths : BuildFolders) : Ahead [] (.start paths) :=
  ⟨fun _ => rfl, fun _ member => (nomatch member), fun _ _ => List.not_mem_nil, rfl⟩

theorem Ahead.congr {others : List String} (ahead : Ahead names d) (same : ∀ name, name ∈ names ↔ name ∈ others) :
    Ahead others d := by
  refine ⟨fun name => ?_, fun name member => ahead.each name ((same name).mpr member),
    fun name absent => ahead.only name fun member => absent ((same name).mp member), ahead.nothing⟩
  rw [ahead.aliases]
  simp only [same]

theorem Ahead.awaits (ahead : Ahead names d) (name : String) : d.symbols.Awaits name ↔ name ∈ names := by
  constructor
  · rintro ⟨found, held, -⟩
    by_contra absent
    exact ahead.only name absent (Symbols.mem_names_of_find? held)
  · intro member
    obtain ⟨found, held, undefined, -⟩ := ahead.each name member
    exact ⟨found, held, undefined⟩

/-- Before anything is built, the draft is sound. -/
theorem Ahead.sound (ahead : Ahead names d) : d.Sound names := by
  have find {name : String} {found : Declaration} (held : d.symbols.find? name = some found) :
      found.definition = none ∧ found.symbol.binding = .pointer := by
    have member := (ahead.awaits name).mp
    by_cases known : name ∈ names
    · obtain ⟨same, heldToo, undefined, pointer⟩ := ahead.each name known
      cases held.symm.trans heldToo
      exact ⟨undefined, pointer⟩
    · exact absurd (Symbols.mem_names_of_find? held) (ahead.only name known)
  refine ⟨ahead.aliases, fun name member => ?_, fun name found held => .inl (find held).2, ?_, fun name => ?_, ?_⟩
  · obtain ⟨found, held, -, pointer⟩ := ahead.each name member
    exact ⟨found, held, pointer⟩
  · rw [ahead.nothing]
    exact List.nodup_nil
  · rw [ahead.nothing]
    constructor
    · intro member
      cases member
    · rintro ⟨found, held, -, defined⟩
      rw [(find held).1] at defined
      cases defined
  · intro before statement after whole
    rw [ahead.nothing] at whole
    exact absurd whole.symm (List.append_ne_nil_of_right_ne_nil _ (List.cons_ne_nil _ _))

theorem yields_enterAhead (ahead : Ahead names d) (component : String) :
    Yields (enter component) d fails fun _ next => Ahead names next :=
  yields_modify ⟨ahead.aliases, ahead.each, ahead.only, ahead.nothing⟩

theorem yields_declareAhead (ahead : Ahead names d) {id : ObjectId} (role : id.role = .declared)
    (named : Cpp.isName id.name = true) (new : id.name ∉ names) :
    Yields (declareAhead id) d fails fun _ next => Ahead (id.name :: names) next := by
  have free := ahead.only id.name new
  -- the name is its own nearest name, and no other name has taken it
  have kept : Cpp.fresh (Cpp.toName id.name) d.symbols.names = id.name := by
    rw [Cpp.toName_of_isName named, Cpp.fresh_of_notMem free]
  let symbol : Cpp.Symbol := ⟨id.name, id.type, .pointer⟩
  have declared : d.symbols.declareObject id .pointer = (symbol,
      { d.symbols.add symbol with aliases := Entries.setSorted id.name id.name d.symbols.aliases }) := by
    simp only [Symbols.declareObject, Symbols.declare, kept, role, if_true]
    rfl
  have added (name : String) := @Symbols.find?_add d.symbols symbol free name
  rw [declareAhead, declareObject]
  refine yields_bind (yields_get ?_)
  rw [declared]
  refine yields_bind (yields_setSymbols (yields_pure ⟨fun name => ?_, fun name member => ?_, ?_, ahead.nothing⟩))
  · rw [Entries.get?_setSorted, ahead.aliases]
    by_cases same : id.name = name
    · simp [same]
    · simp [same, Ne.symm same]
  · by_cases same : name = id.name
    · exact ⟨_, (added name).trans (if_pos same), rfl, rfl⟩
    · obtain ⟨found, held, rest⟩ := ahead.each name ((List.mem_cons.mp member).resolve_left same)
      exact ⟨found, ((added name).trans (if_neg same)).trans held, rest⟩
  · intro name absent
    obtain ⟨other, before⟩ := not_or.mp (mt List.mem_cons.mpr absent)
    have none := (added name).trans ((if_neg other).trans (Symbols.find?_eq_none_iff.mpr (ahead.only name before)))
    exact Symbols.find?_eq_none_iff.mp none

theorem yields_declareAllAhead {ids : List ObjectId} (declared : ∀ id ∈ ids, id.role = .declared)
    (named : ∀ id ∈ ids, Cpp.isName id.name = true) (differ : (names ++ ids.map (·.name)).Nodup)
    (ahead : Ahead names d) :
    Yields (declareAllAhead ids) d fails fun _ next => Ahead (names ++ ids.map (·.name)) next := by
  induction ids generalizing d names with
  | nil =>
    rw [List.map_nil, List.append_nil]
    exact yields_pure ahead
  | cons id rest ih =>
    rw [List.map_cons] at differ ⊢
    obtain ⟨-, -, apart⟩ := List.nodup_append.mp differ
    have new : id.name ∉ names := fun member => apart _ member _ (List.mem_cons_self ..) rfl
    -- the invariant only knows which names there are, so their order may change
    have moved : (names ++ id.name :: rest.map (·.name)).Perm (id.name :: names ++ rest.map (·.name)) :=
      List.perm_middle
    rw [declareAllAhead]
    refine (yields_declareAhead ahead (declared id (List.mem_cons_self ..)) (named id (List.mem_cons_self ..))
      new).bind fun _ next first => ?_
    refine (ih (fun other member => declared other (List.mem_cons_of_mem _ member))
      (fun other member => named other (List.mem_cons_of_mem _ member)) (moved.nodup_iff.mp differ)
      first).mono fun _ last all => ?_
    exact all.congr fun name => moved.mem_iff.symm

theorem declaredObjects_perm (node : Node) :
    (node.declaredObjects.map (·.name)).Perm node.value.declaredNames := by
  have names := node.declaredNames_perm
  rw [Node.declaredObjects, List.map_map]
  exact names

theorem yields_declareSectionsAhead {sections : List (String × Node)}
    (named : ∀ entry ∈ sections, ∀ name ∈ entry.2.value.declaredNames, Cpp.isName name = true)
    (differ : (names ++ sections.flatMap fun entry => entry.2.value.declaredNames).Nodup)
    (ahead : Ahead names d) :
    Yields (declareSectionsAhead sections) d fails fun _ next =>
      Ahead (names ++ sections.flatMap fun entry => entry.2.value.declaredNames) next := by
  induction sections generalizing d names with
  | nil =>
    rw [List.flatMap_nil, List.append_nil]
    exact yields_pure ahead
  | cons entry rest ih =>
    obtain ⟨key, node⟩ := entry
    rw [List.flatMap_cons, ← List.append_assoc] at differ ⊢
    have same := (declaredObjects_perm node).append_left names
    have roles : ∀ id ∈ node.declaredObjects, id.role = .declared := by
      intro id member
      obtain ⟨p, kept, rfl⟩ := List.mem_map.mp member
      exact of_decide_eq_true (List.mem_filter.mp kept).2
    have valid : ∀ id ∈ node.declaredObjects, Cpp.isName id.name = true := fun id member =>
      named _ (List.mem_cons_self ..) _ ((declaredObjects_perm node).mem_iff.mp (List.mem_map_of_mem member))
    have own := same.nodup_iff.mpr (List.nodup_append.mp differ).1
    rw [declareSectionsAhead]
    refine (yields_enterAhead ahead key).bind fun _ first entered => ?_
    refine (yields_declareAllAhead roles valid own entered).bind fun _ second all => ?_
    exact ih (fun other member => named other (List.mem_cons_of_mem _ member)) differ
      (all.congr fun name => same.mem_iff)

end Build

namespace Catalog

open Build Draft Lambda

variable {users codes : List String} {d : Draft}

theorem yields_buildSections {sections : Entries Value}
    (normal : ∀ entry ∈ sections, ∃ component, standard.component? entry.1 = some component ∧
      component.schema.Normal entry.2)
    (within : ∀ entry ∈ sections, entry.2.Within users codes) (sound : d.Sound users)
    (awaits : AwaitsAll users d (sections.flatMap fun entry => entry.2.declaredNames)) (path : Path) :
    (standard.buildSections (sections.map fun entry => (entry.1, ⟨path.key entry.1, entry.2⟩))).Yields d
      (FaultOf codes) fun _ next =>
        Binds users (sections.flatMap fun entry => entry.2.declaredNames) d next := by
  induction sections generalizing d with
  | nil => exact yields_pure (.refl sound)
  | cons entry rest ih =>
    obtain ⟨key, value⟩ := entry
    obtain ⟨component, found, own⟩ := normal (key, value) (List.mem_cons_self ..)
    have inside := within (key, value) (List.mem_cons_self ..)
    rw [List.flatMap_cons] at awaits ⊢
    have build {next : Draft} (sound : next.Sound users) (awaits : AwaitsAll users next value.declaredNames) :
        (component.build ⟨path.key key, value⟩).Yields next (FaultOf codes)
          fun _ last => Binds users value.declaredNames next last := by
      rcases standard_component_cases found with ⟨-, rfl⟩ | ⟨-, rfl⟩
      · exact Core.yields_buildSection sound own inside awaits
      · exact Switch.yields_buildSection sound own inside awaits
    rw [List.map_cons, buildSections]
    simp only [found]
    refine (yields_enter sound key).bind fun _ first entered => ?_
    refine (build entered.sound (awaits.left.later entered)).bind fun _ second built => ?_
    have here := entered.trans built
    refine (ih (fun other member => normal other (List.mem_cons_of_mem _ member))
      (fun other member => within other (List.mem_cons_of_mem _ member)) here.sound (awaits.right here)).mono
      fun _ last others => ?_
    exact here.trans others

/-- The order in which sections are built. -/
def ordered (sections : Entries Value) : Entries Value :=
  sections.filter (·.1 == Core.key) ++ sections.filter (·.1 != Core.key)

theorem ordered_perm (sections : Entries Value) : (ordered sections).Perm sections :=
  List.filter_append_perm (fun entry : String × Value => entry.1 == Core.key) sections

theorem declaredNames_ordered (sections : Entries Value) :
    ((ordered sections).flatMap fun entry => entry.2.declaredNames).Perm (Value.map sections).declaredNames := by
  rw [Value.declaredNames_map]
  exact (ordered_perm sections).flatMap_right _

theorem buildOrder_eq (path : Path) (sections : Entries Value) :
    buildOrder (⟨path, .map sections⟩ : Node).entries =
      (ordered sections).map fun entry => (entry.1, ⟨path.key entry.1, entry.2⟩) := by
  rw [buildOrder, Node.entries, ordered, List.map_append, List.filter_map, List.filter_map]
  rfl

/-- The names that are declared ahead in a checked document are those that the user gave. -/
theorem yields_declareAhead {fails : CompileError → Prop} {sections : Entries Value} (accepted : Accepted sections)
    (path : Path) (paths : BuildFolders) :
    (declareSectionsAhead ((ordered sections).map fun entry => (entry.1, ⟨path.key entry.1, entry.2⟩))).Yields
      (.start paths) fails fun _ draft => Ahead (Value.map sections).declaredNames draft := by
  have names := declaredNames_ordered sections
  have values : ((ordered sections).map fun entry => (entry.1, (⟨path.key entry.1, entry.2⟩ : Node))).flatMap
      (fun entry => entry.2.value.declaredNames) =
      (ordered sections).flatMap fun entry => entry.2.declaredNames := by
    rw [List.flatMap_map]
  have named : ∀ entry ∈ (ordered sections).map fun entry => (entry.1, (⟨path.key entry.1, entry.2⟩ : Node)),
      ∀ name ∈ entry.2.value.declaredNames, Cpp.isName name = true := by
    intro entry member name inside
    obtain ⟨before, held, rfl⟩ := List.mem_map.mp member
    exact accepted.named name (names.mem_iff.mp (List.mem_flatMap.mpr ⟨before, held, inside⟩))
  have ahead := @yields_declareSectionsAhead (.start paths) [] fails _ named
    (by rw [values, List.nil_append]; exact names.nodup_iff.mpr accepted.once) (ahead_start paths)
  refine ahead.mono fun _ first declared => ?_
  rw [values, List.nil_append] at declared
  exact declared.congr fun name => names.mem_iff

/-- Building a checked document fails through its lambdas only, and leaves a draft of which nothing is
    missing. -/
theorem yields_buildAll {sections : Entries Value} (accepted : Accepted sections) (path : Path)
    (paths : BuildFolders) :
    (standard.buildAll ⟨path, .map sections⟩).Yields (.start paths) (FaultOf (Value.map sections).lambdas)
      fun _ draft => draft.Complete (Value.map sections).declaredNames := by
  have perm := ordered_perm sections
  have names := declaredNames_ordered sections
  have whole : (Value.map sections).Within (Value.map sections).declaredNames (Value.map sections).lambdas :=
    ⟨fun _ => id, accepted.known, accepted.differ⟩
  rw [buildAll, buildOrder_eq]
  refine (yields_declareAhead accepted path paths).bind fun _ first declared => ?_
  have awaits : AwaitsAll (Value.map sections).declaredNames first
      ((ordered sections).flatMap fun entry => entry.2.declaredNames) :=
    ⟨names.nodup_iff.mpr accepted.once, fun name => names.mem_iff.mp,
      fun name member => (declared.awaits name).mpr (names.mem_iff.mp member)⟩
  refine (yields_buildSections (fun entry member => accepted.normal.each entry (perm.mem_iff.mp member))
    (fun entry member => whole.entry (perm.mem_iff.mp member)) declared.sound awaits path).mono
    fun _ last binds => ⟨binds.sound, fun name waits => ?_⟩
  obtain ⟨before, unbound⟩ := (binds.awaits name).mp waits
  exact unbound (names.mem_iff.mpr ((declared.awaits name).mp before))

end Catalog

end DeviceConfig
