import DeviceConfig.Automation.Basic
import DeviceConfig.Proofs.Generation.Actions

/-!
Automations in normal form become a trigger, the object that connects it with actions, and the actions.
The names that users gave to triggers and automations are bound on the way, each of them once.
-/

namespace DeviceConfig

theorem declaredNames_id (id : ObjectId) : (Value.id id).declaredNames = id.ownNames := by
  rw [ObjectId.ownNames]
  by_cases declared : id.role = .declared <;>
    simp [Value.declaredNames, Value.ids, Value.collect, Value.id?, declared]

theorem namesUnder_id {entries : Entries Value} {key : String} {id : ObjectId}
    (present : Entries.get? key entries = some (.id id)) : namesUnder entries key = id.ownNames := by
  rw [namesUnder, present, Option.map_some, Option.getD_some, declaredNames_id]

namespace Automation

open Build Draft Lambda

/-- What is expected of a mapping if it is to be an automation for this trigger. -/
structure Describes (trigger : CppType) (set : FieldSet Schema) : Prop where
  triggerId : FieldSet.find? "trigger_id" set.fields =
    some ⟨"trigger_id", .generatedId trigger, .declareId trigger⟩
  automationId : FieldSet.find? "automation_id" set.fields =
    some ⟨"automation_id", .generatedId type, .declareId type⟩
  actions : FieldSet.find? "then" set.fields = some ⟨"then", .required, Schema.actions⟩
  differ : (set.fields.map (·.key)).Nodup
  closed : set.isClosed = true
  declaring : set.declaringKeys = ["trigger_id", "automation_id"]

/-- The fields of an automation with further options of its trigger. -/
def fieldSet (trigger : CppType) (extra : FieldSet Schema) : FieldSet Schema :=
  (((FieldSet.empty.withGeneratedId "trigger_id" trigger).withGeneratedId "automation_id" type).required "then"
    Schema.actions).extend extra

theorem describes_fieldSet (trigger : CppType) : Describes trigger (fieldSet trigger .empty) := by
  have differ : ["trigger_id", "automation_id", "then"].Nodup := by decide
  exact ⟨rfl, rfl, rfl, differ, rfl, rfl⟩

variable {users codes : List String} {d : Draft} {arg trigger : CppType} {set : FieldSet Schema}

theorem yields_connect (sound : d.Sound users) {id : ObjectId} (object : id.role ≠ .used)
    (awaits : AwaitsAll users d id.ownNames) {start : Cpp.Expr} (usable : d.Usable users start) {path : Path}
    {value : Value} (normal : Schema.Normal Schema.actions value) (within : value.Within users codes) :
    (connect id start arg ⟨path, value⟩).Yields d (FaultOf codes) fun _ next =>
      Binds users id.ownNames d next := by
  have definition : d.Usable users (Cpp.Expr.app.method "make_automation" [arg] [start]) :=
    usable_append rfl (usable_of_references_nil rfl) (usable_single usable)
  refine (yields_bindGlobal sound object awaits definition _).bind fun symbol first ⟨binds, mention⟩ => ?_
  refine ((yields_action within).2.1 normal path first binds.sound).bind
    fun entries second ⟨made, usableToo⟩ => ?_
  refine (yields_addActions made.sound (made.usable mention) usableToo).bind fun _ last added =>
    yields_pure ?_
  have whole := (binds.trans made).trans added
  rwa [List.append_nil, List.append_nil] at whole

theorem yields_ofActions (sound : d.Sound users) {start : Cpp.Expr} (usable : d.Usable users start)
    {path : Path} {value : Value} (normal : Schema.Normal Schema.actions value)
    (within : value.Within users codes) :
    (ofActions start arg ⟨path, value⟩).Yields d (FaultOf codes) fun _ next => Binds users [] d next := by
  have made : (ObjectId.generated type).role ≠ .used := by decide
  exact yields_connect sound made .nil usable normal within

theorem Describes.ids (describes : Describes trigger set) {entries : Entries Value}
    (normal : (Schema.fields set).Normal (.map entries)) (distinct : Entries.Distinct entries) :
    ∃ triggerId automationId, Entries.get? "trigger_id" entries = some (.id triggerId) ∧
      Entries.get? "automation_id" entries = some (.id automationId) ∧ triggerId.role ≠ .used ∧
      automationId.role ≠ .used ∧
      (Value.map entries).declaredNames.Perm (triggerId.ownNames ++ automationId.ownNames) := by
  obtain ⟨first, present, own⟩ := normal.needed describes.triggerId rfl
  obtain ⟨second, presentToo, ownToo⟩ := normal.needed describes.automationId rfl
  obtain ⟨triggerId, rfl, admits⟩ := own.exists_declared
  obtain ⟨automationId, rfl, admitsToo⟩ := ownToo.exists_declared
  have names := normal.declaredNames_perm distinct describes.differ describes.closed
  rw [describes.declaring, List.flatMap_cons, List.flatMap_singleton, namesUnder_id present,
    namesUnder_id presentToo] at names
  exact ⟨triggerId, automationId, present, presentToo, admits.not_used, admitsToo.not_used, names⟩

theorem yields_buildAll (describes : Describes trigger set) {makeTrigger : Node → Cpp.Expr} {items : List Value}
    (normal : ∀ item ∈ items, (Schema.fields set).Normal item)
    (within : ∀ item ∈ items, item.Within users codes) (sound : d.Sound users)
    (usable : ∀ node, d.Usable users (makeTrigger node))
    (awaits : AwaitsAll users d (items.flatMap Value.declaredNames)) (path : Path) (position : Nat) :
    (buildAll trigger arg makeTrigger (Node.itemsFrom path position items)).Yields d (FaultOf codes)
      fun _ next => Binds users (items.flatMap Value.declaredNames) d next := by
  induction items generalizing position d with
  | nil => exact yields_pure (.refl sound)
  | cons item rest ih =>
    have own := normal item (List.mem_cons_self ..)
    have inside := within item (List.mem_cons_self ..)
    obtain ⟨entries, rfl⟩ := own.exists_map
    obtain ⟨triggerId, automationId, present, presentToo, object, objectToo, names⟩ :=
      describes.ids own inside.distinct
    obtain ⟨list, held, actions⟩ := own.needed describes.actions rfl
    rw [List.flatMap_cons] at awaits ⊢
    have first := awaits.left.perm names
    rw [Node.itemsFrom, buildAll]
    simp only [build, Node.id?_of_present present, Node.id?_of_present presentToo, Node.get?_of_present held,
      Option.getD_some]
    -- the trigger comes before its automation, which mentions it
    refine (yields_bindGlobal sound object first.left (usable _) _).bind fun symbol second bound => ?_
    obtain ⟨binds, mention⟩ := bound
    refine (yields_connect binds.sound objectToo (first.right binds) mention actions (inside.under held)).bind
      fun _ third connected => ?_
    have whole : Binds users (Value.map entries).declaredNames d third :=
      (binds.trans connected).congr fun name => names.mem_iff.symm
    refine (ih (fun other member => normal other (List.mem_cons_of_mem _ member))
      (fun other member => within other (List.mem_cons_of_mem _ member)) whole.sound
      (fun node => whole.usable (usable node)) (awaits.right whole) (position + 1)).mono fun _ last others => ?_
    exact whole.trans others

theorem yields_buildUnder (describes : Describes trigger set) (sound : d.Sound users) {key : String}
    {makeTrigger : Node → Cpp.Expr} {path : Path} {entries : Entries Value}
    (normal : ∀ value, Entries.get? key entries = some value → (Schema.automation set).Normal value)
    (within : (Value.map entries).Within users codes) (usable : ∀ node, d.Usable users (makeTrigger node))
    (awaits : AwaitsAll users d (namesUnder entries key)) :
    (buildUnder key trigger arg makeTrigger ⟨path, .map entries⟩).Yields d (FaultOf codes)
      fun _ next => Binds users (namesUnder entries key) d next := by
  rw [buildUnder]
  cases present : Entries.get? key entries with
  | none =>
    have nothing : namesUnder entries key = [] := by
      rw [namesUnder, present]
      rfl
    rw [Node.get?_of_absent present, nothing]
    exact yields_pure (.refl sound)
  | some value =>
    obtain ⟨items, rfl, each⟩ := (normal value present).automations
    have names : namesUnder entries key = items.flatMap Value.declaredNames := by
      rw [namesUnder, present, Option.map_some, Option.getD_some, Value.declaredNames_list]
    have inside := within.under present
    rw [names] at awaits ⊢
    rw [Node.get?_of_present present]
    exact yields_buildAll describes each (fun item member => inside.item member) sound usable awaits _ 0

end Automation

end DeviceConfig
