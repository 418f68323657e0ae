import DeviceConfig.Proofs.Assembly.Programs
import DeviceConfig.Proofs.Objects.Identifiers
import DeviceConfig.Proofs.Objects.Kept

/-!
The names that objects have in the configuration, and those that the program binds them under
(`Catalog.names_kept_iff`).
-/

namespace DeviceConfig

namespace Program

/-- What the program binds objects for, and the symbols that they are bound to, in the order in which the sections
    bind them (`Catalog.bindsFor_buildSections`). -/
def objects (p : Program) : List (Origin × Cpp.Symbol) := (Catalog.origins p.config).zip (objectSymbols p.statements)

/-- The names that these objects are bound under. -/
def objectNames (p : Program) : List (Origin × String) := p.objects.map fun pair => (pair.1, pair.2.name)

/-- The object of this identifier is bound under the name. -/
def IsBoundAs (p : Program) (id : ObjectId) (name : String) : Prop := (.configured id, name) ∈ p.objectNames

theorem isBoundAs_iff {p : Program} {id : ObjectId} {name : String} :
    p.IsBoundAs id name ↔ ∃ symbol, (.configured id, symbol) ∈ p.objects ∧ symbol.name = name := by
  rw [IsBoundAs, objectNames, List.mem_map]
  constructor
  · rintro ⟨⟨_, symbol⟩, member, same⟩
    obtain ⟨rfl, rfl⟩ := Prod.mk.inj same
    exact ⟨symbol, member, rfl⟩
  · rintro ⟨symbol, member, rfl⟩
    exact ⟨_, member, rfl⟩

end Program

/-- What is known of the identifiers of objects once they have their names. -/
structure Value.Settles (value : Value) : Prop where
  settled : ∀ id ∈ value.objects, id.IsSettled value.declaredNames
  differ : (value.objects.map (·.name)).Nodup
  free : ∀ id ∈ value.objects, id.role = .generated → id.name ∉ value.declaredNames
  dense : ∀ id ∈ value.objects, id.role = .generated → ∃ earlier,
    Cpp.IsFirstFree id.type.nameHint earlier id.name ∧ ∀ name ∈ earlier,
      name ∈ value.declaredNames ∨ ∃ other ∈ value.objects, other.role = .generated ∧ other.name = name

theorem Value.mem_generatedNames {value : Value} {name : String} :
    name ∈ generatedNames value.ids ↔ ∃ id ∈ value.objects, id.role = .generated ∧ id.name = name := by
  rw [generatedNames, List.mem_map]
  refine exists_congr fun id => ?_
  rw [List.mem_filter, mem_objects, decide_eq_true_eq]
  constructor
  · rintro ⟨⟨inside, made⟩, same⟩
    exact ⟨⟨inside, by rw [made]; decide⟩, made, same⟩
  · rintro ⟨⟨inside, -⟩, made, same⟩
    exact ⟨⟨inside, made⟩, same⟩

/-- An identifier is bound to one symbol if it stands once among those that objects are bound for. -/
theorem eq_of_nodup_configuredIds {pairs : List (Origin × Cpp.Symbol)} {id : ObjectId} {symbol other : Cpp.Symbol}
    (differ : (configuredIds (pairs.map (·.1))).Nodup) (member : (.configured id, symbol) ∈ pairs)
    (memberToo : (.configured id, other) ∈ pairs) : symbol = other := by
  have known {symbol : Cpp.Symbol} {rest : List (Origin × Cpp.Symbol)} (inside : (.configured id, symbol) ∈ rest) :
      id ∈ configuredIds (rest.map (·.1)) := mem_configuredIds.mpr (List.mem_map_of_mem inside)
  induction pairs with
  | nil => cases member
  | cons pair rest ih =>
    have parts : configuredIds ((pair :: rest).map (·.1)) =
        configuredIds [pair.1] ++ configuredIds (rest.map (·.1)) := configuredIds_append [pair.1] _
    rw [parts] at differ
    obtain ⟨-, restDiffer, apart⟩ := List.nodup_append.mp differ
    rcases List.mem_cons.mp member with rfl | inRest
    · rcases List.mem_cons.mp memberToo with same | inRestToo
      · cases same
        rfl
      · exact absurd rfl (apart id (List.mem_singleton_self _) id (known inRestToo))
    · rcases List.mem_cons.mp memberToo with rfl | inRestToo
      · exact absurd rfl (apart id (List.mem_singleton_self _) id (known inRest))
      · exact ih restDiffer inRest inRestToo

namespace Catalog

open Build Draft

variable {document : Node} {path : Path} {sections : Entries Value}

theorem settles_of_check (checked : standard.check document = .ok ⟨path, .map sections⟩)
    (accepted : Accepted sections) : (Value.map sections).Settles := by
  obtain ⟨before, -, resolved⟩ := check_eq_ok_iff.mp checked
  have named : before.named = ⟨path, .map sections⟩ := by
    rw [Node.resolveIdentifiers_eq] at resolved
    exact (Prod.mk.inj resolved).2
  obtain ⟨after, takes⟩ := before.takes_named
  have unlike : ∀ name ∈ generatedNames before.named.value.ids, name ∉ before.named.value.declaredNames :=
    fun name made declared => takes.free name made (before.mem_declaredNames_named declared)
  have fresh {id : ObjectId} := @Node.exists_fresh_named before id
  have differ := takes.differ
  rw [named] at unlike fresh differ
  have first {id : ObjectId} (member : id ∈ (Value.map sections).objects) (made : id.role = .generated) :
      ∃ earlier, Cpp.IsFirstFree id.type.nameHint earlier id.name ∧ ∀ name ∈ earlier,
        name ∈ (Value.map sections).declaredNames ∨ name ∈ generatedNames (Value.map sections).ids := by
    obtain ⟨earlier, same, inside⟩ := fresh (Value.mem_objects.mp member).1 made
    exact ⟨earlier, same ▸ Cpp.isFirstFree_fresh _ _, inside⟩
  refine ⟨fun id member => ?_, ?_, fun id member made => ?_, fun id member made => ?_⟩
  · obtain ⟨inside, object⟩ := Value.mem_objects.mp member
    refine ⟨object, (accepted.normal.objects id inside object).1, accepted.normal.isName_ids id inside,
      fun declared => ?_, fun made => ?_⟩
    · exact List.mem_map_of_mem (List.mem_filter.mpr ⟨inside, decide_eq_true declared⟩)
    · obtain ⟨earlier, isFirst, -⟩ := first member made
      exact isFirst.isCalledAfter
  · rw [(Value.map sections).names_objects_perm.nodup_iff, List.nodup_append]
    refine ⟨accepted.once, differ, fun name declared other made same => ?_⟩
    exact unlike other made (same ▸ declared)
  · exact unlike id.name (Value.mem_generatedNames.mpr ⟨id, member, made, rfl⟩)
  · obtain ⟨earlier, isFirst, inside⟩ := first member made
    exact ⟨earlier, isFirst, fun name held => (inside name held).imp_right Value.mem_generatedNames.mp⟩

theorem leads_of_ahead {users : List String} {d : Draft} (ahead : Ahead users d)
    (blank : Blank (fun type => type.isObject = true) d) : d.Leads users := by
  intro name member
  obtain ⟨found, held, -⟩ := ahead.each name member
  refine ⟨?_, found, held, (blank.objects found (List.mem_of_find?_eq_some held)).2⟩
  rw [ahead.aliases, if_pos member]

/-- Building a checked document binds its objects in the order of the sections. -/
theorem allots_buildAll (accepted : Accepted sections) (settles : (Value.map sections).Settles) (path : Path)
    (paths : BuildFolders) :
    Ensures (standard.buildAll ⟨path, .map sections⟩) (.start paths) fun _ draft =>
      ∃ first pairs, Ahead (Value.map sections).declaredNames first ∧
        pairs.map (·.1) = origins ⟨path, .map sections⟩ ∧ first.Allots pairs draft := by
  have perm := objects_perm accepted path
  have typed : ∀ id ∈ (Value.map sections).ids, id.role = .declared → id.type.isObject = true := by
    intro id member declared
    have object : id.role ≠ .used := by
      rw [declared]
      decide
    exact isObject_objectTypes _ (accepted.normal.objects id member object).1
  rw [buildAll]
  rw [origins] at perm ⊢
  rw [buildOrder_eq] at perm ⊢
  have declared := @ensures_declareAhead (fun type => type.isObject = true) sections accepted typed path paths
  refine declared.bind fun _ first both => ?_
  obtain ⟨ahead, blank⟩ := both
  have binds := bindsFor_buildSections _ (fun id member => settles.settled id (perm.mem_iff.mpr member)) first
    (leads_of_ahead ahead blank)
  refine binds.mono fun _ last bound => ?_
  obtain ⟨pairs, same, allots⟩ := bound
  exact ⟨first, pairs, ahead, same, allots⟩

/-- How the objects of a program came by their names. -/
theorem allots_of_compile {placement : Placement} {program : Program}
    (compiled : standard.compile placement document = .ok program) (differ : document.value.keysDiffer = true) :
    program.config.value.Settles ∧
    program.config.value.objects.Perm (configuredIds (origins program.config)) ∧
    program.objects.map (·.1) = origins program.config ∧
    program.objects.map (·.2) = objectSymbols program.statements ∧
    ∃ first draft, Ahead program.config.value.declaredNames first ∧ first.Allots program.objects draft := by
  obtain ⟨checked, draft, outcome, whole⟩ := exists_draft_of_compile compiled
  obtain ⟨sections, config, accepted⟩ := accepted_of_check checked differ
  rw [config] at checked outcome ⊢
  have settles := settles_of_check checked accepted
  have allots := allots_buildAll accepted settles document.path (placement.paths ⟨document.path, .map sections⟩)
  obtain ⟨first, pairs, ahead, same, bound⟩ := Build.ensures_iff.mp allots _ draft outcome
  have symbols : pairs.map (·.2) = objectSymbols program.statements := by
    rw [whole, bound.objectSymbols_eq, ahead.nothing]
    rfl
  have objects : program.objects = pairs := by
    rw [Program.objects, config]
    exact (List.zip_of_prod same symbols).symm
  rw [objects]
  exact ⟨settles, objects_perm accepted _, same, symbols, first, draft, ahead, bound⟩

/-- The objects that are bound are, one by one, those that the sections are to have. Each of the configuration is bound
    under one name. It is the name in the configuration, unless that was made up for an automation and a switch has
    connected actions of its own before. If this is so for any, not all made-up names are those in the configuration. -/
theorem names_kept_iff {placement : Placement} {program : Program}
    (compiled : standard.compile placement document = .ok program) (differ : document.value.keysDiffer = true) :
    List.Forall₂ Origin.Suits (origins program.config) (objectSymbols program.statements) ∧
    (∀ id ∈ program.config.value.objects, ∃! name, program.IsBoundAs id name) ∧
    (∀ id ∈ program.config.value.objects,
      (id.role = .generated → id.type = Automation.type → ¬ConnectedBefore (origins program.config) id) →
      program.IsBoundAs id id.name) ∧
    ((∀ id ∈ program.config.value.objects, id.role = .generated → program.IsBoundAs id id.name) ↔
      ∀ id ∈ program.config.value.objects, id.role = .generated → id.type = Automation.type →
        ¬ConnectedBefore (origins program.config) id) := by
  obtain ⟨settles, perm, same, symbols, first, draft, ahead, allots⟩ := allots_of_compile compiled differ
  rw [← same, ← symbols]
  rw [← same] at perm
  have exists_symbol {id : ObjectId} (member : id ∈ program.config.value.objects) :
      ∃ symbol, (.configured id, symbol) ∈ program.objects := by
    obtain ⟨⟨_, symbol⟩, inside, rfl⟩ := List.mem_map.mp (mem_configuredIds.mp (perm.mem_iff.mp member))
    exact ⟨symbol, inside⟩
  have once : (configuredIds (program.objects.map (·.1))).Nodup := perm.nodup_iff.mp settles.differ.of_map
  have kept {id : ObjectId} (member : id ∈ program.config.value.objects)
      (early : id.role = .generated → id.type = Automation.type →
        ¬ConnectedBefore (program.objects.map (·.1)) id) : program.IsBoundAs id id.name := by
    obtain ⟨symbol, bound⟩ := exists_symbol member
    refine Program.isBoundAs_iff.mpr ⟨symbol, bound, ?_⟩
    exact allots.keeps_unless (fun id inside => settles.settled id (perm.mem_iff.mpr inside))
      ((perm.map _).nodup_iff.mp settles.differ)
      (fun id inside made => ahead.only _ (settles.free id (perm.mem_iff.mpr inside) made)) bound early
  refine ⟨?_, fun id member => ?_, fun id => kept, fun all id member made automation connected => ?_,
    fun none id member made => kept member (none id member)⟩
  · rw [List.forall₂_map_left_iff, List.forall₂_map_right_iff, List.forall₂_same]
    exact allots.suits
  · obtain ⟨symbol, bound⟩ := exists_symbol member
    refine ⟨symbol.name, Program.isBoundAs_iff.mpr ⟨symbol, bound, rfl⟩, fun name boundAs => ?_⟩
    obtain ⟨other, boundToo, rfl⟩ := Program.isBoundAs_iff.mp boundAs
    rw [eq_of_nodup_configuredIds once boundToo bound]
  · refine allots.not_all_kept (fun id inside made => ?_) made automation connected fun other symbol bound madeToo => ?_
    · obtain ⟨earlier, isFirst, taken⟩ := settles.dense id (perm.mem_iff.mpr inside) made
      refine ⟨earlier, isFirst, fun name held => (taken name held).imp (fun user => ?_) ?_⟩
      · obtain ⟨found, declared, -⟩ := ahead.each name user
        exact Symbols.mem_names_of_find? declared
      · exact fun ⟨other, inside, rest⟩ => ⟨other, perm.mem_iff.mp inside, rest⟩
    · have inside := perm.mem_iff.mpr (mem_configuredIds.mpr (List.mem_map_of_mem bound))
      obtain ⟨_, boundToo, named⟩ := Program.isBoundAs_iff.mp (all other inside madeToo)
      rwa [eq_of_nodup_configuredIds once bound boundToo]

theorem name_kept_fan : ∃ program, standard.compile samplePlacement (Node.atRoot fan) = .ok program ∧
    program.IsBoundAs ⟨"automation", Automation.type, .generated⟩ "automation" := by
  obtain ⟨program, compiled, -, config⟩ := compile_fan
  obtain ⟨-, -, kept, -⟩ := names_kept_iff compiled rfl
  refine ⟨program, compiled, kept ⟨"automation", Automation.type, .generated⟩ ?_ fun _ _ => ?_⟩
  · rw [config]
    decide +kernel
  · rw [config]
    decide +kernel

end Catalog

end DeviceConfig
