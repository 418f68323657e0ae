import DeviceConfig.Build.FileTree
import DeviceConfig.Compile
import DeviceConfig.Json.Encode
import DeviceConfig.Yaml.Printer

/-!
The commands, as functions of the text of the configuration file.
-/

namespace DeviceConfig

inductive Command where
  | compile (file : String) (output metadata : Option String) (fragment : Bool)
    (buildDirectory : Option String)
  /-- Only tells whether the file compiles. -/
  | check (file : String)
  /-- Prints the normal form of the configuration. -/
  | config (file format : String)
  deriving Repr, DecidableEq

/-- What a command wants done: files are written in order, then texts are shown. -/
structure Effects where
  /-- What was done on the way, for those who want to know. It is shown before all else. -/
  log : List String
  writes : List (String × String)
  output : String
  notes : List String
  error : Option CompileError

namespace Effects

def failed (e : CompileError) : Effects := ⟨[], [], "", [], some e⟩

end Effects

namespace Command

def file : Command → String
  | compile file _ _ _ _ => file
  | check file => file
  | config file _ => file

def document (text : String) : Except CompileError Node :=
  match Node.ofText text with
  | .ok document => .ok document
  | .error fault => .error (.unreadable fault)

def programOf (placement : Placement) (text : String) : Except CompileError (BuildFolders × Program) := do
  let document ← document text
  let config ← Catalog.standard.check document
  let program ← Catalog.standard.generate placement config
  return (placement.paths config, program)

/-- Adds what is done with the code of a program. -/
def deliver (paths : BuildFolders) (output : Option String) (fragment : Bool) (before : Effects)
    (code : String) : Effects :=
  match fragment, output with
  | true, some path => { before with writes := before.writes ++ [(path, code)] }
  | true, none => { before with output := code }
  | false, output =>
    let path := output.getD paths.mainFile
    { before with writes := before.writes ++ [(path, code)], notes := ["Wrote " ++ path] }

def compileEffects (placement : Placement) (output metadata : Option String) (fragment : Bool)
    (text : String) : Effects :=
  match programOf placement text with
  | .error e => .failed e
  | .ok (paths, program) =>
    let before : Effects :=
      ⟨[], metadata.toList.map fun path => (path, program.metadata.toJson.pretty), "", [], none⟩
    match program.output (if fragment then .fragment else .main) with
    | .error e => { before with error := some e }
    | .ok code => deliver paths output fragment before code

def checkEffects (placement : Placement) (file text : String) : Effects :=
  let result := do
    let (_, program) ← programOf placement text
    let _ ← program.fragment
    return program
  match result with
  | .error e => .failed e
  | .ok program =>
    ⟨[], [], "", [s!"✓ {file} is valid ({program.statements.length} statements)"], none⟩

def formatText (format : String) (value : Value) : Except CompileError String :=
  let name := Text.lowercase format
  if name = "json" then .ok value.toJson.pretty
  else if name = "yaml" ∨ name = "yml" then .ok value.toYaml.text
  else .error (.files s!"unknown output format '{name}'. Use: yaml, json")

def endLine (text : String) : String :=
  if text.toList.getLast? == some '\n' then text else text ++ "\n"

def configEffects (format text : String) : Effects :=
  let result := do
    let document ← document text
    let config ← Catalog.standard.check document
    formatText format config.value
  match result with
  | .error e => .failed e
  | .ok shown => ⟨[], [], endLine shown, [], none⟩

/-- A line for each section of the text that is checked. -/
def checkLog (text : String) : List String :=
  match document text with
  | .error _ => []
  | .ok document =>
    (document.entries.filter fun (key, _) => (Catalog.standard.component? key).isSome).map
      fun (key, _) => s!"validating section {key}"

/-- What the command wants done when its file holds this text. -/
def effects (command : Command) (text : String) : Effects :=
  let directory := FilePath.directory command.file
  let done :=
    match command with
    | compile _ output metadata fragment buildDirectory =>
      compileEffects ⟨directory, buildDirectory⟩ output metadata fragment text
    | check file => checkEffects ⟨directory, none⟩ file text
    | config _ format => configEffects format text
  { done with log := checkLog text }

end Command

/-- What is seen of a command after it ended. -/
structure Outcome where
  /-- Empty unless the user asked for it. -/
  log : List String
  output : String
  notes : List String
  error : Option CompileError

namespace Outcome

/-- Nothing went wrong: 0. The configuration is at fault: 1. Files could not be read or written: 3. -/
def exitCode (o : Outcome) : Nat :=
  match o.error with
  | none => 0
  | some (.files _) => 3
  | some _ => 1

/-- The code of the error, if the error is the first thing that is shown besides the output. -/
def firstCode? (o : Outcome) : Option String :=
  if o.log.isEmpty then o.error.bind (·.code?) else none

end Outcome

def unreadableFile (path : String) : CompileError := .files s!"failed to read {path}"

def unwritableFile (path : String) : CompileError := .files s!"failed to write '{path}'"

/-- Runs a command on the files of a directory. Nothing but the log is shown if a file could not be
    written. -/
def Command.runIn (command : Command) (verbose : Bool) (tree : FileTree) : FileTree × Outcome :=
  match tree.read? command.file with
  | none => (tree, ⟨[], "", [], some (unreadableFile command.file)⟩)
  | some text =>
    let effects := command.effects text
    let log := if verbose then effects.log else []
    match tree.writeAll effects.writes with
    | (after, none) => (after, ⟨log, effects.output, effects.notes, effects.error⟩)
    | (after, some path) => (after, ⟨log, "", [], some (unwritableFile path)⟩)

end DeviceConfig
