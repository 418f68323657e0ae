import DeviceConfig.Core.Build
import DeviceConfig.Proofs.Generation.Automations

/-!
The section `core` as code binds the names that users declared in the automations of the device.
-/

namespace DeviceConfig.Core

open Build Draft Lambda

variable {users codes : List String} {d : Draft}

theorem yields_addLibraries {fails : CompileError → Prop} (sound : d.Sound users) (libraries : List String) :
    (addLibraries libraries).Yields d fails fun _ next => Binds users [] d next := by
  induction libraries generalizing d with
  | nil => exact yields_pure (.refl sound)
  | cons library rest ih =>
    rw [addLibraries]
    refine (yields_addLibrary sound library).bind fun _ next first => ?_
    exact (ih first.sound).mono fun _ last others => first.trans others

theorem yields_addIncludes {fails : CompileError → Prop} (sound : d.Sound users) (paths : BuildFolders)
    (files : List String) :
    (addIncludes paths files).Yields d fails fun _ next => Binds users [] d next := by
  induction files generalizing d with
  | nil => exact yields_pure (.refl sound)
  | cons file rest ih =>
    rw [addIncludes]
    refine (yields_addInclude sound _).bind fun _ next first => ?_
    exact (ih first.sound).mono fun _ last others => first.trans others

theorem usable_startup (node : Node) : d.Usable users (startup node) := by
  refine usable_of_references_nil ?_
  rw [startup]
  cases (node.get? "priority").bind (·.value.number?) <;> rfl

theorem describes_startup : Automation.Describes startupTrigger (Automation.fieldSet startupTrigger startupOptions) := by
  have differ : ["trigger_id", "automation_id", "then", "priority"].Nodup := by decide
  exact ⟨rfl, rfl, rfl, differ, rfl, rfl⟩

theorem declaringKeys_fields : fields.declaringKeys = ["on_boot", "on_shutdown", "on_loop"] := rfl

theorem nodup_keys : (fields.fields.map (·.key)).Nodup := by
  have differ : ["name", "platform", "board", "use_custom_code", "build_path", "board_flash_mode", "on_boot",
    "on_shutdown", "on_loop", "includes", "libraries", "library_uri", "use_build_flags"].Nodup := by decide
  exact differ

theorem declaredNames_perm {entries : Entries Value} (normal : (Schema.fields fields).Normal (.map entries))
    (distinct : Entries.Distinct entries) :
    (Value.map entries).declaredNames.Perm (namesUnder entries "on_boot" ++
      (namesUnder entries "on_shutdown" ++ namesUnder entries "on_loop")) := by
  have names := normal.declaredNames_perm distinct nodup_keys rfl
  rwa [declaringKeys_fields, List.flatMap_cons, List.flatMap_cons, List.flatMap_singleton] at names

theorem yields_buildSection (sound : d.Sound users) {path : Path} {value : Value}
    (normal : sectionSchema.Normal value) (within : value.Within users codes)
    (awaits : AwaitsAll users d value.declaredNames) :
    (buildSection ⟨path, value⟩).Yields d (FaultOf codes)
      fun _ next => Binds users value.declaredNames d next := by
  have nameField : FieldSet.find? "name" fields.fields = some ⟨"name", .required, .name⟩ := rfl
  have bootField : FieldSet.find? "on_boot" fields.fields =
      some ⟨"on_boot", .optional, .automation (Automation.fieldSet startupTrigger startupOptions)⟩ := rfl
  have shutdownField : FieldSet.find? "on_shutdown" fields.fields =
      some ⟨"on_shutdown", .optional, .automation (Automation.fieldSet shutdownTrigger .empty)⟩ := rfl
  have loopField : FieldSet.find? "on_loop" fields.fields =
      some ⟨"on_loop", .optional, .automation (Automation.fieldSet loopTrigger .empty)⟩ := rfl
  obtain ⟨entries, rfl⟩ := normal.exists_map
  obtain ⟨_, named, own⟩ := Schema.Normal.needed normal nameField rfl
  obtain ⟨name, rfl⟩ := own.exists_name
  have names := declaredNames_perm normal within.distinct
  replace awaits := awaits.perm names
  have plain {next : Draft} {e : Cpp.Expr} (none : e.references = []) : next.Usable users e :=
    usable_of_references_nil none
  rw [buildSection]
  simp only [Node.string?_of_present named]
  refine (yields_evaluate sound (plain rfl)).bind fun _ first one => ?_
  refine (Automation.yields_buildUnder describes_startup one.sound
    (fun value held => Schema.Normal.entry normal bootField held) within usable_startup
    (awaits.left.later one)).bind fun _ second boot => ?_
  have booted := one.trans boot
  replace awaits := awaits.right booted
  refine (Automation.yields_buildUnder (Automation.describes_fieldSet _) booted.sound
    (fun value held => Schema.Normal.entry normal shutdownField held) within (fun _ => plain rfl)
    awaits.left).bind fun _ third down => ?_
  replace awaits := awaits.right down
  refine (Automation.yields_buildUnder (Automation.describes_fieldSet _) down.sound
    (fun value held => Schema.Normal.entry normal loopField held) within (fun _ => plain rfl)
    awaits).bind fun _ fourth loop => ?_
  refine (yields_evaluate loop.sound (plain rfl)).bind fun _ fifth five => ?_
  refine (yields_addLibraries five.sound _).bind fun _ sixth six => ?_
  refine yields_bind (yields_get ((yields_addIncludes six.sound _ _).mono fun _ last seven => ?_))
  have all := booted.trans ((down.trans loop).trans ((five.trans six).trans seven))
  exact all.congr fun name => by rw [names.mem_iff]; simp

end DeviceConfig.Core
