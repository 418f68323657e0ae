import DeviceConfig.Catalog
import DeviceConfig.Program.Basic
import DeviceConfig.Schema.Identifiers

/-!
From a document to a program: every section is checked, the identifiers of the whole document are
resolved, the names that users gave are declared, and every component builds its section, `core` first.
-/

namespace DeviceConfig

/-- Where a configuration stands, and where its program goes if the configuration has no say. -/
structure Placement where
  configDirectory : String
  buildDirectory : Option String
  deriving Repr, DecidableEq

namespace Catalog

/-- Checks one section. Its problems become one. -/
def checkSection (catalog : Catalog) (key : String) (node : Node) : Except Problem Value :=
  match catalog.component? key with
  | none => .error (.of node.path (.unknownSection key catalog.keys))
  | some component =>
    match component.schema.check node with
    | .ok value => .ok value
    | .error problems => .error (Problem.fold node.path problems)

def checkSections (catalog : Catalog) : List (String × Node) → List Problem × Entries Value
  | [] => ([], [])
  | (key, node) :: rest =>
    let (problems, sections) := catalog.checkSections rest
    match catalog.checkSection key node with
    | .ok value => (problems, (key, value) :: sections)
    | .error problem => (problem :: problems, sections)

/-- Checks the sections that a document has, and that it has the section every document needs. -/
def checkEntries (catalog : Catalog) (document : Node) : Except CompileError Node :=
  let missing : List Problem :=
    if document.contains Core.key then []
    else [.of (document.path.key Core.key) (.missingSection Core.key)]
  let (problems, sections) := catalog.checkSections document.entries
  match missing ++ problems with
  | [] => .ok ⟨document.path, .map sections⟩
  | problems => .error (.invalid problems)

def resolveIdentifiers (config : Node) : Except CompileError Node :=
  match config.resolveIdentifiers with
  | ([], resolved) => .ok resolved
  | (problems, _) => .error (.invalid problems)

/-- The normal form of a document. -/
def check (catalog : Catalog) (document : Node) : Except CompileError Node :=
  match document.value with
  | .map _ | .null => do
    let config ← catalog.checkEntries document
    resolveIdentifiers config
  | other => .error (.invalid [.of document.path (.notSections other.kindName)])

end Catalog

/-- Where the program of a checked configuration is built: where the caller says, else where the
    configuration says, else in a directory of the device's name. -/
def Placement.paths (placement : Placement) (config : Node) : BuildFolders :=
  let written := (config.get? Core.key).bind fun core =>
    (core.string? "build_path").or (core.string? "name")
  let directory := (placement.buildDirectory.or written).getD "build"
  ⟨placement.configDirectory, FilePath.join placement.configDirectory directory⟩

namespace Build

def declareAllAhead : List ObjectId → Build Unit
  | [] => return ()
  | id :: rest => do
    let _ ← declareAhead id
    declareAllAhead rest

/-- Declares the names that users gave to the objects of the sections. -/
def declareSectionsAhead : List (String × Node) → Build Unit
  | [] => return ()
  | (key, node) :: rest => do
    enter key
    declareAllAhead node.declaredObjects
    declareSectionsAhead rest

end Build

namespace Catalog

/-- The sections in the order in which they are built. -/
def buildOrder (sections : List (String × Node)) : List (String × Node) :=
  sections.filter (·.1 == Core.key) ++ sections.filter (·.1 != Core.key)

def buildSections (catalog : Catalog) : List (String × Node) → Build Unit
  | [] => return ()
  | (key, node) :: rest => do
    match catalog.component? key with
    | none => throw (.noComponent key)
    | some component =>
      Build.enter key
      component.build node
      catalog.buildSections rest

def buildAll (catalog : Catalog) (config : Node) : Build Unit := do
  let sections := buildOrder config.entries
  Build.declareSectionsAhead sections
  catalog.buildSections sections

def generate (catalog : Catalog) (placement : Placement) (config : Node) :
    Except CompileError Program :=
  match (catalog.buildAll config).apply (.start (placement.paths config)) with
  | (.ok _, draft) => draft.toProgram config
  | (.error e, _) => .error e

def compile (catalog : Catalog) (placement : Placement) (document : Node) :
    Except CompileError Program := do
  let config ← catalog.check document
  catalog.generate placement config

def exports (catalog : Catalog) (config : Node) : List ExportRecord :=
  let name := ((config.get? Core.key).bind (·.string? "name")).getD ""
  config.entries.flatMap fun (key, node) =>
    match Entries.get? key catalog.exporters with
    | some exporter => exporter ⟨name, []⟩ node
    | none => []

end Catalog

/-- The program of a text, with the components that are built in. -/
def compileText (text : String) (placement : Placement) : Except CompileError Program :=
  match Node.ofText text with
  | .ok document => Catalog.standard.compile placement document
  | .error fault => .error (.unreadable fault)

end DeviceConfig
