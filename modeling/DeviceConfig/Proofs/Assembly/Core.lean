import DeviceConfig.Proofs.Assembly.Automations
import DeviceConfig.Proofs.Generation.Core

/-!
The section `core` compiles the lambdas in the automations of the device.
-/

namespace DeviceConfig.Core

open Build Draft

variable {users : List String} {d : Draft}

theorem compiles_addLibraries (tidy : d.Tidy users) (libraries : List String) :
    Ensures (addLibraries libraries) d fun _ next => Compiles users [] d next := by
  induction libraries generalizing d with
  | nil => exact yields_pure (.refl tidy)
  | cons library rest ih =>
    refine (compiles_addLibrary tidy library).bind fun _ next first => ?_
    exact (ih first.tidy).mono fun _ last others => first.trans others

theorem compiles_addIncludes (tidy : d.Tidy users) (paths : BuildFolders) (files : List String) :
    Ensures (addIncludes paths files) d fun _ next => Compiles users [] d next := by
  induction files generalizing d with
  | nil => exact yields_pure (.refl tidy)
  | cons file rest ih =>
    refine (compiles_addInclude tidy _).bind fun _ next first => ?_
    exact (ih first.tidy).mono fun _ last others => first.trans others

theorem serves_startup (node : Node) : d.Serves (startup node) := by
  refine serves_register (serves_allocate (by decide) fun part member => ?_)
  obtain ⟨x, -, rfl⟩ := Option.map_eq_some_iff.mp (Option.mem_toList.mp member)
  exact serves_of_nil rfl rfl rfl

theorem compiles_buildSection (tidy : d.Tidy users) {path : Path} {value : Value}
    (normal : sectionSchema.Normal value) (suits : value.Suits users) :
    Ensures (buildSection ⟨path, value⟩) d fun _ next => Compiles users value.lambdas d next := by
  have bootField : FieldSet.find? "on_boot" fields.fields =
      some ⟨"on_boot", .optional, .automation (Automation.fieldSet startupTrigger startupOptions)⟩ := rfl
  have shutdownField : FieldSet.find? "on_shutdown" fields.fields =
      some ⟨"on_shutdown", .optional, .automation (Automation.fieldSet shutdownTrigger .empty)⟩ := rfl
  have loopField : FieldSet.find? "on_loop" fields.fields =
      some ⟨"on_loop", .optional, .automation (Automation.fieldSet loopTrigger .empty)⟩ := rfl
  obtain ⟨entries, rfl⟩ := normal.exists_map
  have keys : fields.codeKeys = ["on_boot", "on_shutdown", "on_loop"] := rfl
  have lambdas := Schema.Normal.lambdas_perm normal suits.distinct (by decide) rfl
  rw [keys] at lambdas
  have plain {next : Draft} {e : Cpp.Expr} (references : e.references = []) (types : e.types = [])
      (lambdas : e.lambdas = []) : next.Serves e := serves_of_nil references types lambdas
  rw [buildSection]
  split
  · exact yields_throw trivial
  refine (compiles_evaluate tidy (plain rfl rfl rfl)).bind fun _ first one => ?_
  refine (Automation.compiles_buildUnder describes_startup rfl one.tidy
    (fun value held => Schema.Normal.entry normal bootField held) suits serves_startup (by decide) (by decide)).bind
    fun _ second boot => ?_
  refine (Automation.compiles_buildUnder (Automation.describes_fieldSet _) rfl boot.tidy
    (fun value held => Schema.Normal.entry normal shutdownField held) suits
    (fun _ => serves_allocate (by decide) (List.forall_mem_nil _)) (by decide) (by decide)).bind
    fun _ third down => ?_
  refine (Automation.compiles_buildUnder (Automation.describes_fieldSet _) rfl down.tidy
    (fun value held => Schema.Normal.entry normal loopField held) suits
    (fun _ => serves_register (serves_allocate (by decide) (List.forall_mem_nil _))) (by decide) (by decide)).bind
    fun _ fourth loop => ?_
  refine (compiles_evaluate loop.tidy (plain rfl rfl rfl)).bind fun _ fifth five => ?_
  refine (compiles_addLibraries five.tidy _).bind fun _ sixth six => ?_
  refine yields_bind (yields_get ((compiles_addIncludes six.tidy _ _).mono fun _ last seven => ?_))
  have all := (one.trans boot).trans (down.trans (loop.trans (five.trans (six.trans seven))))
  refine all.perm (List.Perm.trans ?_ lambdas.symm)
  simp

end DeviceConfig.Core
