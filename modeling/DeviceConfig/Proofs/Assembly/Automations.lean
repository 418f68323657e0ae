import DeviceConfig.Proofs.Assembly.Actions
import DeviceConfig.Proofs.Assembly.Steps
import DeviceConfig.Proofs.Generation.Automations

/-!
Automations compile the lambdas of their actions.
-/

namespace DeviceConfig.Automation

open Build Draft

variable {users : List String} {d : Draft} {arg trigger : CppType} {set : FieldSet Schema} {start : Cpp.Expr}
  {path : Path}

theorem compiles_connect (tidy : d.Tidy users) {id : ObjectId} (suits : id.Suits users) (object : id.role ≠ .used)
    (serves : d.Serves start) (known : arg.Known) {value : Value} (normal : Schema.Normal Schema.actions value)
    (differ : value.keysDiffer = true) :
    Ensures (connect id start arg ⟨path, value⟩) d fun _ next => Compiles users value.lambdas d next := by
  have single : ∀ type ∈ [arg], type.Known := fun _ member => List.mem_singleton.mp member ▸ known
  have definition : d.Serves (Cpp.Expr.app.method "make_automation" [arg] [start]) :=
    serves_method (serves_of_nil rfl rfl rfl) single (serves_single serves)
  have typed : ∀ given, some (instantiate "Automation" arg) = some given → given.Known := by
    rintro given ⟨⟩
    exact CppType.known_mk (by decide) single
  refine (compiles_bindGlobal tidy suits object definition typed).bind fun symbol first ⟨bound, mention⟩ => ?_
  obtain ⟨items, rfl, forms⟩ := (forms_action value).2.1 normal path first
  refine forms.bind fun es second ⟨symbols, codes, same, _, code, made⟩ => ?_
  subst same
  have compiled := made.compiles bound.tidy known single
  have mentionToo := compiled.serves mention
  refine (ensures_addActions arg (mentionToo.fits arg) mentionToo.unused made.objects).bind
    fun _ last added => yields_pure ?_
  have whole := (bound.trans compiled).trans (added.compiles compiled.tidy known single)
  rw [List.nil_append, List.append_nil] at whole
  rw [Value.lambdas_list]
  exact whole.perm (code (Value.keysDiffer_list.mp differ))

theorem compiles_ofActions (tidy : d.Tidy users) (serves : d.Serves start) (known : arg.Known) {value : Value}
    (normal : Schema.Normal Schema.actions value) (differ : value.keysDiffer = true) :
    Ensures (ofActions start arg ⟨path, value⟩) d fun _ next => Compiles users value.lambdas d next := by
  have suits : (ObjectId.generated type).Suits users := ObjectId.suits_generated (by decide) (by decide)
  exact compiles_connect tidy suits (by decide) serves known normal differ

theorem compiles_buildAll (describes : Describes trigger set) (code : set.codeKeys = ["then"])
    {makeTrigger : Node → Cpp.Expr} {items : List Value} (normal : ∀ item ∈ items, (Schema.fields set).Normal item)
    (suits : ∀ item ∈ items, item.Suits users) (tidy : d.Tidy users) (serves : ∀ node, d.Serves (makeTrigger node))
    (knownTrigger : trigger.Known) (known : arg.Known) (path : Path) (position : Nat) :
    Ensures (buildAll trigger arg makeTrigger (Node.itemsFrom path position items)) d
      fun _ next => Compiles users (items.flatMap Value.lambdas) d next := by
  induction items generalizing position d with
  | nil => exact yields_pure (.refl tidy)
  | cons item rest ih =>
    have own := normal item List.mem_cons_self
    have inside := suits item List.mem_cons_self
    obtain ⟨entries, rfl⟩ := own.exists_map
    obtain ⟨triggerId, automationId, present, presentToo, object, objectToo, -⟩ :=
      describes.ids own inside.distinct
    obtain ⟨list, held, actions⟩ := own.needed describes.actions rfl
    have lambdas : (Value.map entries).lambdas.Perm list.lambdas := by
      have perm := own.lambdas_perm inside.distinct describes.differ describes.closed
      rwa [code, List.flatMap_singleton, codeUnder, gatherUnder_of_present held] at perm
    have typed : ∀ given, some trigger = some given → given.Known := fun _ same =>
      Option.some.inj same ▸ knownTrigger
    rw [Node.itemsFrom, buildAll]
    simp only [build, Node.id?_of_present present, Node.id?_of_present presentToo, Node.get?_of_present held,
      Option.getD_some]
    refine (compiles_bindGlobal tidy (inside.id present object) object (serves _) typed).bind
      fun symbol second both => ?_
    obtain ⟨bound, mention⟩ := both
    refine (compiles_connect bound.tidy (inside.id presentToo objectToo) objectToo mention known actions
      (inside.under held).differ).bind fun _ third connected => ?_
    have whole := bound.trans connected
    refine (ih (fun other member => normal other (List.mem_cons_of_mem _ member))
      (fun other member => suits other (List.mem_cons_of_mem _ member)) whole.tidy
      (fun node => whole.serves (serves node)) (position + 1)).mono fun _ last others => ?_
    rw [List.flatMap_cons]
    exact (whole.trans others).perm (lambdas.symm.append_right _)

theorem compiles_buildUnder (describes : Describes trigger set) (code : set.codeKeys = ["then"])
    (tidy : d.Tidy users) {key : String} {makeTrigger : Node → Cpp.Expr} {entries : Entries Value}
    (normal : ∀ value, Entries.get? key entries = some value → (Schema.automation set).Normal value)
    (suits : (Value.map entries).Suits users) (serves : ∀ node, d.Serves (makeTrigger node))
    (knownTrigger : trigger.Known) (known : arg.Known) :
    Ensures (buildUnder key trigger arg makeTrigger ⟨path, .map entries⟩) d
      fun _ next => Compiles users (codeUnder entries key) d next := by
  rw [buildUnder]
  cases present : Entries.get? key entries with
  | none =>
    rw [Node.get?_of_absent present, codeUnder, gatherUnder_of_absent present]
    exact yields_pure (.refl tidy)
  | some value =>
    obtain ⟨items, rfl, each⟩ := (normal value present).automations
    rw [Node.get?_of_present present, codeUnder, gatherUnder_of_present present, Value.lambdas_list]
    have inside := suits.under present
    exact compiles_buildAll describes code each (fun item member => inside.item member) tidy serves knownTrigger
      known _ 0

end DeviceConfig.Automation
