import DeviceConfig.Proofs.Generation.Sections
import DeviceConfig.Proofs.Objects.Sections

/-!
The sections of a checked document bind an object for each identifier in it that is one of an object, and for each
just one (`Catalog.objects_perm`).
-/

namespace DeviceConfig

namespace Value

/-- The identifiers in a value that are those of objects, not of references to objects. -/
def objects (value : Value) : List ObjectId := value.ids.filter (·.role ≠ .used)

theorem objects_list (items : List Value) : (list items).objects = items.flatMap objects := by
  rw [objects, ids_list, List.filter_flatMap]
  rfl

theorem objects_map (entries : Entries Value) :
    (map entries).objects = entries.flatMap fun entry => entry.2.objects := by
  rw [objects, ids_map, List.filter_flatMap]
  rfl

theorem objects_id {id : ObjectId} (object : id.role ≠ .used) : (Value.id id).objects = [id] := by
  simp [objects, ids, collect, id?, object]

theorem objects_filter_declared (value : Value) :
    value.objects.filter (·.role = .declared) = value.ids.filter (·.role = .declared) := by
  rw [objects, List.filter_filter]
  refine List.filter_congr fun id _ => ?_
  cases id.role <;> rfl

theorem objects_filter_generated (value : Value) :
    value.objects.filter (fun id => !decide (id.role = .declared)) = value.ids.filter (·.role = .generated) := by
  rw [objects, List.filter_filter]
  refine List.filter_congr fun id _ => ?_
  cases id.role <;> rfl

/-- The names of objects are those that users declared and those that were made up. -/
theorem names_objects_perm (value : Value) :
    (value.objects.map (·.name)).Perm (value.declaredNames ++ generatedNames value.ids) := by
  have parts := List.filter_append_perm (fun id : ObjectId => decide (id.role = .declared)) value.objects
  rw [objects_filter_declared, objects_filter_generated] at parts
  rw [declaredNames, generatedNames, ← List.map_append]
  exact parts.symm.map _

theorem mem_objects {value : Value} {id : ObjectId} : id ∈ value.objects ↔ id ∈ value.ids ∧ id.role ≠ .used := by
  rw [objects, List.mem_filter, decide_eq_true_eq]

end Value

theorem Schema.Normal.objects_perm {set : FieldSet Schema} {entries : Entries Value}
    (normal : (Schema.fields set).Normal (.map entries)) (distinct : Entries.Distinct entries)
    (differ : (set.fields.map (·.key)).Nodup) (closed : set.isClosed = true) :
    (Value.map entries).objects.Perm (set.declaringKeys.flatMap (gatherUnder Value.objects entries)) := by
  rw [Value.objects_map]
  refine normal.flatMap_perm distinct differ closed fun _ value silent shut own => ?_
  refine List.filter_eq_nil_iff.mpr fun id member => ?_
  rw [own.role_eq_used silent shut id member]
  decide

theorem Schema.Normal.type_eq_of_declared {type : CppType} {id : ObjectId}
    (normal : (Schema.declareId type).Normal (.id id)) : id.type = type := by
  obtain ⟨_, same, admits⟩ := normal.exists_declared
  cases same
  exact admits.type_eq

theorem objectsUnder_id {entries : Entries Value} {key : String} {id : ObjectId}
    (present : Entries.get? key entries = some (.id id)) (object : id.role ≠ .used) :
    gatherUnder Value.objects entries key = [id] := by
  rw [gatherUnder_of_present present, Value.objects_id object]

theorem configuredIds_append (before after : List Origin) :
    configuredIds (before ++ after) = configuredIds before ++ configuredIds after := List.filterMap_append

theorem objects_perm_items {origins : Node → List Origin} {items : List Value}
    (each : ∀ item ∈ items, ∀ path, item.objects.Perm (configuredIds (origins ⟨path, item⟩))) (path : Path)
    (position : Nat) :
    (items.flatMap Value.objects).Perm (configuredIds ((Node.itemsFrom path position items).flatMap origins)) := by
  induction items generalizing position with
  | nil => exact .refl _
  | cons item rest ih =>
    rw [Node.itemsFrom, List.flatMap_cons, List.flatMap_cons, configuredIds_append]
    exact (each item List.mem_cons_self _).append
      (ih (fun other member => each other (List.mem_cons_of_mem _ member)) _)

namespace Automation

variable {trigger : CppType} {set : FieldSet Schema} {entries : Entries Value}

theorem idFor_of_present {key : String} {id : ObjectId} {kind : CppType} {path : Path}
    (present : Entries.get? key entries = some (.id id)) (typed : id.type = kind) :
    (⟨path, .map entries⟩ : Node).idFor key kind = id := by
  subst typed
  rw [Node.idFor, Node.id?_of_present present]
  rfl

theorem Describes.objects_perm (describes : Describes trigger set) (normal : (Schema.fields set).Normal (.map entries))
    (distinct : Entries.Distinct entries) (path : Path) :
    (Value.map entries).objects.Perm (configuredIds (origins trigger ⟨path, .map entries⟩)) := by
  obtain ⟨triggerId, automationId, present, presentToo, object, objectToo, -⟩ := describes.ids normal distinct
  have typed := (normal.entry describes.triggerId present).type_eq_of_declared
  have typedToo := (normal.entry describes.automationId presentToo).type_eq_of_declared
  have perm := normal.objects_perm distinct describes.differ describes.closed
  rw [describes.declaring, List.flatMap_cons, List.flatMap_singleton, objectsUnder_id present object,
    objectsUnder_id presentToo objectToo] at perm
  rw [origins, idFor_of_present present typed, idFor_of_present presentToo typedToo]
  exact perm

theorem objects_perm_under (describes : Describes trigger set) {key : String}
    (normal : ∀ value, Entries.get? key entries = some value → (Schema.automation set).Normal value)
    (differ : (Value.map entries).keysDiffer = true) (path : Path) :
    (gatherUnder Value.objects entries key).Perm (configuredIds (originsUnder key trigger ⟨path, .map entries⟩)) := by
  rw [originsUnder]
  cases present : Entries.get? key entries with
  | none =>
    rw [Node.get?_of_absent present, gatherUnder_of_absent present]
    exact .refl _
  | some value =>
    obtain ⟨items, rfl, each⟩ := (normal value present).automations
    have inside := (Value.keysDiffer_map.mp differ).2 _ (Entries.mem_of_get? present)
    rw [Node.get?_of_present present, gatherUnder_of_present present, Value.objects_list]
    refine objects_perm_items (fun item member place => ?_) _ _
    obtain ⟨own, rfl⟩ := (each item member).exists_map
    have distinct := (Value.keysDiffer_map.mp (Value.keysDiffer_list.mp inside _ member)).1
    exact describes.objects_perm (each _ member) distinct place

end Automation

theorem Core.objects_perm {value : Value} (normal : sectionSchema.Normal value) (differ : value.keysDiffer = true)
    (path : Path) : value.objects.Perm (configuredIds (origins ⟨path, value⟩)) := by
  have bootField : FieldSet.find? "on_boot" fields.fields =
      some ⟨"on_boot", .optional, .automation (Automation.fieldSet startupTrigger startupOptions)⟩ := rfl
  have shutdownField : FieldSet.find? "on_shutdown" fields.fields =
      some ⟨"on_shutdown", .optional, .automation (Automation.fieldSet shutdownTrigger .empty)⟩ := rfl
  have loopField : FieldSet.find? "on_loop" fields.fields =
      some ⟨"on_loop", .optional, .automation (Automation.fieldSet loopTrigger .empty)⟩ := rfl
  obtain ⟨entries, rfl⟩ := normal.exists_map
  have perm := Schema.Normal.objects_perm normal (Value.keysDiffer_map.mp differ).1 nodup_keys rfl
  rw [declaringKeys_fields, List.flatMap_cons, List.flatMap_cons, List.flatMap_singleton] at perm
  rw [origins, configuredIds_append, configuredIds_append]
  refine perm.trans (List.Perm.append ?_ (List.Perm.append ?_ ?_))
  · exact Automation.objects_perm_under describes_startup
      (fun _ held => Schema.Normal.entry normal bootField held) differ path
  · exact Automation.objects_perm_under (Automation.describes_fieldSet _)
      (fun _ held => Schema.Normal.entry normal shutdownField held) differ path
  · exact Automation.objects_perm_under (Automation.describes_fieldSet _)
      (fun _ held => Schema.Normal.entry normal loopField held) differ path

namespace Switch

variable {set : FieldSet Schema} {kind : CppType} {entries : Entries Value} {node : Node}

theorem ownOrigin_of_present {id : ObjectId} {path : Path} (present : Entries.get? "id" entries = some (.id id)) :
    ownOrigin ⟨path, .map entries⟩ = [.configured id] := by
  rw [ownOrigin, Node.id?_of_present present]
  rfl

theorem Describes.objects_perm (describes : Describes set kind) (normal : (Schema.fields set).Normal (.map entries))
    (differ : (Value.map entries).keysDiffer = true) (path : Path) :
    (Value.map entries).objects.Perm
      (configuredIds (ownOrigin ⟨path, .map entries⟩ ++ triggerOrigins ⟨path, .map entries⟩)) := by
  have distinct := (Value.keysDiffer_map.mp differ).1
  obtain ⟨id, present, object, -⟩ := describes.ids normal distinct
  have perm := normal.objects_perm distinct describes.differ describes.closed
  rw [describes.declaring, triggerKeys, List.flatMap_cons, List.flatMap_cons, List.flatMap_singleton,
    objectsUnder_id present object] at perm
  rw [ownOrigin_of_present present, triggerOrigins, configuredIds_append, configuredIds_append]
  refine perm.trans (List.Perm.append_left _ (List.Perm.append ?_ ?_))
  · exact Automation.objects_perm_under (Automation.describes_fieldSet _)
      (fun _ held => normal.entry describes.onTurnOn held) differ path
  · exact Automation.objects_perm_under (Automation.describes_fieldSet _)
      (fun _ held => normal.entry describes.onTurnOff held) differ path

theorem configuredIds_connections (key : String) (node : Node) : configuredIds (connections key node) = [] := by
  rw [connections]
  split <;> rfl

theorem objects_perm_template (normal : (Schema.fields (Platform.entryFields .template)).Normal (.map entries))
    (differ : (Value.map entries).keysDiffer = true) (path : Path) :
    (Value.map entries).objects.Perm (configuredIds (Platform.origins .template ⟨path, .map entries⟩)) := by
  have none : configuredIds (connections "turn_on_action" ⟨path, .map entries⟩ ++
      connections "turn_off_action" ⟨path, .map entries⟩) = [] := by
    rw [configuredIds_append, configuredIds_connections, configuredIds_connections]
    rfl
  rw [Platform.origins, ← List.append_assoc, configuredIds_append, none, List.append_nil]
  exact describes_template.objects_perm normal differ path

theorem objects_perm_custom (normal : (Schema.fields (Platform.entryFields .custom)).Normal (.map entries))
    (differ : (Value.map entries).keysDiffer = true) (path : Path) :
    (Value.map entries).objects.Perm (configuredIds (Platform.origins .custom ⟨path, .map entries⟩)) := by
  obtain ⟨distinct, inside⟩ := Value.keysDiffer_map.mp differ
  obtain ⟨-, id, items, -, present, held, object, each⟩ :=
    exists_customFields (List.mem_cons_of_mem _ List.mem_cons_self) normal
  have differToo := Value.keysDiffer_list.mp (inside _ (Entries.mem_of_get? held))
  have perm := normal.objects_perm distinct nodup_customKeys rfl
  rw [declaringKeys_custom, List.flatMap_cons, List.flatMap_singleton, objectsUnder_id present object,
    gatherUnder_of_present held, Value.objects_list] at perm
  let nodes := Node.itemsFrom (path.key "switches") 0 items
  have listed : Switch.listed ⟨path, .map entries⟩ = nodes := by
    rw [Switch.listed, Node.get?_of_present held]
    rfl
  rw [Platform.origins, listed, ownOrigin_of_present present, configuredIds_append]
  refine perm.trans (List.Perm.append_left _ ?_)
  refine List.Perm.trans ?_ ((List.flatMap_append_perm nodes ownOrigin triggerOrigins).symm.filterMap _)
  refine objects_perm_items (fun item member place => ?_) _ _
  obtain ⟨own, rfl⟩ := (each item member).exists_map
  exact describes_fields.objects_perm (each _ member) (differToo _ member) place

theorem objects_perm_entry {value : Value} (normal : entrySchema.Normal value) (differ : value.keysDiffer = true)
    (path : Path) : value.objects.Perm (configuredIds (entryOrigins ⟨path, value⟩)) := by
  obtain ⟨platform, entries, rfl, present, own⟩ := exists_platform normal
  have known : Platform.ofName? platform.name = some platform := by cases platform <;> rfl
  rw [entryOrigins]
  simp only [Node.string?_of_present present, Option.getD_some, known]
  cases platform with
  | custom => exact objects_perm_custom own differ path
  | template => exact objects_perm_template own differ path

theorem objects_perm {value : Value} (normal : sectionSchema.Normal value) (differ : value.keysDiffer = true)
    (path : Path) : value.objects.Perm (configuredIds (origins ⟨path, value⟩)) := by
  obtain ⟨items, rfl, each⟩ := normal.exists_list
  rw [Value.objects_list]
  exact objects_perm_items (fun item member place =>
    objects_perm_entry (each item member) (Value.keysDiffer_list.mp differ item member) place) path 0

end Switch

namespace Catalog

theorem objects_perm_sections {sections : Entries Value}
    (normal : ∀ entry ∈ sections, ∃ component, standard.component? entry.1 = some component ∧
      component.schema.Normal entry.2)
    (differ : ∀ entry ∈ sections, entry.2.keysDiffer = true) (path : Path) :
    (sections.flatMap fun entry => entry.2.objects).Perm
      (configuredIds (originsOf (sections.map fun entry => (entry.1, ⟨path.key entry.1, entry.2⟩)))) := by
  induction sections with
  | nil => exact .refl _
  | cons entry rest ih =>
    obtain ⟨component, found, own⟩ := normal entry List.mem_cons_self
    have distinct := differ entry List.mem_cons_self
    rw [List.map_cons, originsOf, List.flatMap_cons, List.flatMap_cons, configuredIds_append]
    refine List.Perm.append ?_ (ih (fun other member => normal other (List.mem_cons_of_mem _ member))
      fun other member => differ other (List.mem_cons_of_mem _ member))
    obtain ⟨key, value⟩ := entry
    rcases standard_component_cases found with ⟨rfl, rfl⟩ | ⟨rfl, rfl⟩
    · exact Core.objects_perm own distinct _
    · exact Switch.objects_perm own distinct _

/-- The sections bind an object for each identifier of one, and for no other identifiers. -/
theorem objects_perm {sections : Entries Value} (accepted : Accepted sections) (path : Path) :
    (Value.map sections).objects.Perm (configuredIds (origins ⟨path, .map sections⟩)) := by
  have perm := ordered_perm sections
  rw [origins, buildOrder_eq, Value.objects_map]
  refine (perm.symm.flatMap_right _).trans (objects_perm_sections
    (fun entry member => accepted.normal.each entry (perm.mem_iff.mp member)) (fun entry member => ?_) path)
  exact (Value.keysDiffer_map.mp accepted.differ).2 entry (perm.mem_iff.mp member)

end Catalog

end DeviceConfig
