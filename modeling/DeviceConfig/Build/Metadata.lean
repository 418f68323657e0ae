import DeviceConfig.Build.FilePath
import DeviceConfig.Json.Basic

/-!
What a generated program needs besides its code: libraries, compiler flags and included files.
-/

namespace DeviceConfig

structure Metadata where
  /-- In order, each once. -/
  libraries : List String
  /-- In order; with each flag the components that asked for it, in order. -/
  flags : Entries (List String)
  /-- In the order of their first mention. -/
  includes : List String
  deriving Repr, DecidableEq

/-- Puts a text at its place in a list in order, unless it is there. -/
def insertSorted (text : String) : List String → List String
  | [] => [text]
  | first :: rest =>
    if text < first then text :: first :: rest
    else if text = first then first :: rest
    else first :: insertSorted text rest

namespace Metadata

def empty : Metadata := ⟨[], [], []⟩

def addLibrary (m : Metadata) (library : String) : Metadata :=
  { m with libraries := insertSorted library m.libraries }

def addFlag (m : Metadata) (flag component : String) : Metadata :=
  let askers := (Entries.get? flag m.flags).getD []
  { m with flags := Entries.setSorted flag (insertSorted component askers) m.flags }

def addInclude (m : Metadata) (directive : String) : Metadata :=
  if m.includes.contains directive then m
  else { m with includes := m.includes ++ [directive] }

def toJson (m : Metadata) : Json :=
  .object
    [("required_libraries", .array (m.libraries.map .string)),
      ("build_flags", .object (m.flags.map fun (flag, askers) => (flag, .array (askers.map .string)))),
      ("include_directives", .array (m.includes.map .string))]

end Metadata

/-- The line that includes a file in the program at `mainFile`, by the path from the program's
    directory. -/
def includeLine (file mainFile : String) : String :=
  let directory := (FilePath.parentParts (FilePath.parts mainFile)).getD []
  let steps := FilePath.relativeParts (FilePath.parts file) directory
  "#include \"" ++ String.intercalate "/" (steps.map FilePath.Part.text) ++ "\""

/-- Where the configuration stands and where the program is built. -/
structure BuildFolders where
  configDirectory : String
  buildDirectory : String
  deriving Repr, DecidableEq

namespace BuildFolders

def mainFile (paths : BuildFolders) : String :=
  FilePath.join (FilePath.join paths.buildDirectory "src") "main.cpp"

/-- A path written in the configuration. -/
def resolve (paths : BuildFolders) (file : String) : String :=
  FilePath.join paths.configDirectory file

end BuildFolders

end DeviceConfig
