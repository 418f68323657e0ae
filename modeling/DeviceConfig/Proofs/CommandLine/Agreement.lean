import DeviceConfig.CommandLine.Command
import DeviceConfig.Proofs.CommandLine.Portable
import DeviceConfig.Proofs.Program.Rendering

/-!
The commands `check` and `compile` agree: a file that one of them refuses, the other refuses for the same
reason, and `compile` then leaves all files as they are (`Command.check_agrees_compile`). They build the
program at different places, and `check` does not write out its main file; neither makes a difference, since a
finished program can be written in both forms.
-/

namespace DeviceConfig

namespace Catalog

/-- What there is of a program besides what it needs. -/
def code (program : Program) : List Cpp.Statement × Symbols := (program.statements, program.symbols)

theorem toProgram_alike {d e : Draft} (alike : d.Alike e) (config : Node) :
    (d.toProgram config).map code = (e.toProgram config).map code := by
  rw [Draft.toProgram, Draft.toProgram, alike.symbols, alike.statements]
  cases statementTexts e.symbols e.statements with
  | error fault => rfl
  | ok texts =>
    cases e.symbols.checkOrder e.statements with
    | error fault => rfl
    | ok _ => rfl

/-- Built elsewhere, a configuration gives the same code or fails in the same way. -/
theorem generate_alike (config : Node) (here there : Placement) :
    (standard.generate here config).map code = (standard.generate there config).map code := by
  have started : (Draft.start (here.paths config)).Alike (.start (there.paths config)) := ⟨rfl, rfl⟩
  obtain ⟨same, alike⟩ := isPortable_buildAll config _ _ started
  rw [generate, generate]
  rcases built : (standard.buildAll config).apply (.start (here.paths config)) with ⟨result, draft⟩
  rcases builtToo : (standard.buildAll config).apply (.start (there.paths config)) with ⟨other, draftToo⟩
  rw [built, builtToo] at same alike
  obtain rfl : result = other := same
  cases result with
  | error e => rfl
  | ok _ => exact toProgram_alike alike config

theorem output_of_generate {placement : Placement} {config : Node} {program : Program}
    (generated : standard.generate placement config = .ok program) (form : OutputForm) :
    ∃ text, program.output form = .ok text := by
  rw [generate] at generated
  split at generated
  · obtain ⟨written, -, rfl⟩ := Draft.toProgram_eq_ok_iff.mp generated
    exact Program.exists_output written form
  · cases generated

end Catalog

namespace Command

variable {placement : Placement} {text : String}

theorem programOf_error_iff (here there : Placement) (text : String) (e : CompileError) :
    programOf here text = .error e ↔ programOf there text = .error e := by
  refine bind_error_congr fun document => bind_error_congr fun config => ?_
  have same := error_iff_of_map_eq (Catalog.generate_alike config here there) (e := e)
  exact bind_pure_eq_error_iff.trans (same.trans bind_pure_eq_error_iff.symm)

theorem output_of_programOf {paths : BuildFolders} {program : Program}
    (made : programOf placement text = .ok (paths, program)) (form : OutputForm) :
    ∃ written, program.output form = .ok written := by
  obtain ⟨document, -, rest⟩ := bind_eq_ok_iff.mp made
  obtain ⟨config, -, last⟩ := bind_eq_ok_iff.mp rest
  obtain ⟨finished, generated, same⟩ := bind_eq_ok_iff.mp last
  cases same
  exact Catalog.output_of_generate generated form

theorem deliver_error (paths : BuildFolders) (output : Option String) (fragment : Bool) (before : Effects)
    (code : String) : (deliver paths output fragment before code).error = before.error := by
  cases fragment <;> cases output <;> rfl

/-- Nothing but the making of the program can fail. -/
theorem compileEffects_cases (placement : Placement) (output metadata : Option String) (fragment : Bool)
    (text : String) :
    (∃ e, programOf placement text = .error e ∧
        compileEffects placement output metadata fragment text = .failed e) ∨
      (∃ made, programOf placement text = .ok made) ∧
        (compileEffects placement output metadata fragment text).error = none := by
  unfold compileEffects
  cases made : programOf placement text with
  | error e => exact .inl ⟨e, rfl, rfl⟩
  | ok pair =>
    obtain ⟨paths, program⟩ := pair
    obtain ⟨code, written⟩ := output_of_programOf made (if fragment then .fragment else .main)
    refine .inr ⟨⟨_, rfl⟩, ?_⟩
    simp only [written, deliver_error]

theorem checkEffects_error_eq (placement : Placement) (file text : String) :
    (checkEffects placement file text).error =
      match programOf placement text with
      | .error e => some e
      | .ok _ => none := by
  unfold checkEffects
  cases made : programOf placement text with
  | error e => rfl
  | ok pair =>
    obtain ⟨paths, program⟩ := pair
    obtain ⟨code, written⟩ := output_of_programOf made .fragment
    have fragment : program.fragment = .ok code := written
    simp only [bind, Except.bind, fragment, pure, Except.pure]

theorem effects_error_eq (file : String) (output metadata buildDirectory : Option String) (fragment : Bool)
    (text : String) :
    ((check file).effects text).error =
      ((compile file output metadata fragment buildDirectory).effects text).error := by
  have checked := checkEffects_error_eq ⟨FilePath.directory file, none⟩ file text
  have same := programOf_error_iff ⟨FilePath.directory file, buildDirectory⟩ ⟨FilePath.directory file, none⟩ text
  change (checkEffects ⟨FilePath.directory file, none⟩ file text).error =
    (compileEffects ⟨FilePath.directory file, buildDirectory⟩ output metadata fragment text).error
  rw [checked]
  rcases compileEffects_cases ⟨FilePath.directory file, buildDirectory⟩ output metadata fragment text with
    ⟨e, failed, effects⟩ | ⟨⟨made, succeeded⟩, none⟩
  · rw [effects, (same e).mp failed]
    rfl
  · rw [none]
    cases other : programOf ⟨FilePath.directory file, .none⟩ text with
    | error e => cases succeeded.symm.trans ((same e).mpr other)
    | ok _ => rfl

/-- A command that fails to make a program wants nothing written. -/
theorem writes_of_error {file text : String} {output metadata buildDirectory : Option String} {fragment : Bool}
    {e : CompileError}
    (failed : ((compile file output metadata fragment buildDirectory).effects text).error = some e) :
    ((compile file output metadata fragment buildDirectory).effects text).writes = [] := by
  change (compileEffects ⟨FilePath.directory file, buildDirectory⟩ output metadata fragment text).error =
    some e at failed
  change (compileEffects ⟨FilePath.directory file, buildDirectory⟩ output metadata fragment text).writes = []
  rcases compileEffects_cases ⟨FilePath.directory file, buildDirectory⟩ output metadata fragment text with
    ⟨fault, -, effects⟩ | ⟨-, none⟩
  · rw [effects]
    rfl
  · cases none.symm.trans failed

theorem writes_check (file text : String) : ((check file).effects text).writes = [] := by
  change (checkEffects ⟨FilePath.directory file, none⟩ file text).writes = []
  unfold checkEffects
  dsimp only
  split <;> rfl

section Run

variable {tree : FileTree} {command : Command} {text : String}

theorem runIn_of_written (verbose : Bool) (found : tree.read? command.file = some text)
    (written : (tree.writeAll (command.effects text).writes).2 = none) :
    (command.runIn verbose tree).1 = (tree.writeAll (command.effects text).writes).1 ∧
      (command.runIn verbose tree).2.error = (command.effects text).error := by
  rw [runIn, found]
  rcases outcome : tree.writeAll (command.effects text).writes with ⟨after, failed⟩
  rw [outcome] at written
  obtain rfl : failed = none := written
  simp only [outcome, and_self]

/-- If the configuration is at fault, the files are those after all writes. -/
theorem runIn_of_exitCode_one {verbose : Bool} (found : tree.read? command.file = some text)
    (failed : (command.runIn verbose tree).2.exitCode = 1) :
    (command.runIn verbose tree).1 = (tree.writeAll (command.effects text).writes).1 ∧
      ∃ e, (command.effects text).error = some e := by
  cases written : (tree.writeAll (command.effects text).writes).2 with
  | none =>
    obtain ⟨same, error⟩ := runIn_of_written verbose found written
    refine ⟨same, ?_⟩
    rw [Outcome.exitCode, error] at failed
    cases error : (command.effects text).error with
    | none =>
      rw [error] at failed
      cases failed
    | some e => exact ⟨e, rfl⟩
  | some path =>
    rw [runIn, found] at failed
    rcases outcome : tree.writeAll (command.effects text).writes with ⟨after, unwritten⟩
    rw [outcome] at written
    obtain rfl : unwritten = some path := written
    simp only [outcome] at failed
    cases failed

end Run

/-- On the same files, `check` and `compile` end with the same error or without any, unless a file cannot be
    written; if the configuration is at fault, `compile` leaves the files as they are. -/
theorem check_agrees_compile (tree : FileTree) (file : String) (output metadata buildDirectory : Option String)
    (fragment verbose verboseToo : Bool) :
    let compiling := compile file output metadata fragment buildDirectory
    let compiled := compiling.runIn verbose tree
    let checked := (check file).runIn verboseToo tree
    ((∀ text, tree.read? file = some text → (tree.writeAll (compiling.effects text).writes).2 = none) →
      (checked.2.exitCode = 0 ↔ compiled.2.exitCode = 0) ∧ checked.2.error = compiled.2.error) ∧
    (compiled.2.exitCode = 1 → compiled.1 = tree) := by
  intro compiling compiled checked
  have same : checked.2.error = compiled.2.error →
      (checked.2.exitCode = 0 ↔ compiled.2.exitCode = 0) ∧ checked.2.error = compiled.2.error := by
    intro equal
    rw [Outcome.exitCode, Outcome.exitCode, equal]
    exact ⟨Iff.rfl, rfl⟩
  cases found : tree.read? file with
  | none =>
    have unread (command : Command) (verbose : Bool) (own : command.file = file) :
        command.runIn verbose tree = (tree, ⟨[], "", [], some (unreadableFile file)⟩) := by
      rw [runIn, own, found]
    have compiledUnread : compiled = _ := unread compiling verbose rfl
    have checkedUnread : checked = _ := unread (check file) verboseToo rfl
    rw [compiledUnread, checkedUnread] at same ⊢
    exact ⟨fun _ => same rfl, fun _ => rfl⟩
  | some text =>
    refine ⟨fun writable => same ?_, fun failed => ?_⟩
    · have nothing : (tree.writeAll ((check file).effects text).writes).2 = none := by rw [writes_check]; rfl
      obtain ⟨-, compiledError⟩ := @runIn_of_written tree compiling text verbose found (writable text rfl)
      obtain ⟨-, checkedError⟩ := @runIn_of_written tree (check file) text verboseToo found nothing
      exact (checkedError.trans (effects_error_eq ..)).trans compiledError.symm
    · obtain ⟨after, e, error⟩ := @runIn_of_exitCode_one tree compiling text verbose found failed
      rw [writes_of_error error] at after
      exact after

/-- A file with a section that no component knows. -/
def strayFiles : FileTree := .ofFiles [("dev.yaml", "wifi:")]

def compileStray : Command := .compile "dev.yaml" none (some "out/needs.json") false none

theorem document_stray : document "wifi:" = .ok (.atRoot (.map [("wifi", .null)])) := by
  have read : Node.ofText "wifi:" = .ok (.atRoot (.map [("wifi", .null)])) := by cbv
  rw [document, read]

theorem programOf_stray (placement : Placement) :
    ∃ problems, programOf placement "wifi:" = .error (.invalid problems) := by
  rw [programOf, document_stray]
  exact ⟨_, rfl⟩

theorem effects_stray : ∃ problems, (compileStray.effects "wifi:").error = some (.invalid problems) := by
  obtain ⟨problems, failed⟩ := programOf_stray ⟨FilePath.directory "dev.yaml", none⟩
  refine ⟨problems, ?_⟩
  change (compileEffects ⟨FilePath.directory "dev.yaml", none⟩ none (some "out/needs.json") false "wifi:").error = _
  rw [compileEffects, failed]
  rfl

theorem check_agrees_compile_stray :
    (compileStray.runIn false strayFiles).2.exitCode = 1 ∧ (compileStray.runIn false strayFiles).1 = strayFiles ∧
      ((check "dev.yaml").runIn false strayFiles).2.error = (compileStray.runIn false strayFiles).2.error := by
  obtain ⟨problems, error⟩ := effects_stray
  have writes : (compileStray.effects "wifi:").writes = [] := writes_of_error error
  have written : (strayFiles.writeAll (compileStray.effects "wifi:").writes).2 = none := by
    rw [writes]
    rfl
  obtain ⟨agree, unchanged⟩ := check_agrees_compile strayFiles "dev.yaml" none (some "out/needs.json") none false
    false false
  have failed : (compileStray.runIn false strayFiles).2.exitCode = 1 := by
    rw [Outcome.exitCode, (@runIn_of_written strayFiles compileStray "wifi:" false rfl written).2, error]
  refine ⟨failed, unchanged failed, (agree fun text found => ?_).2⟩
  obtain rfl : "wifi:" = text := Option.some.inj found
  exact written

end Command

end DeviceConfig
