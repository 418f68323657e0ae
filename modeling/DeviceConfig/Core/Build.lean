import DeviceConfig.Automation.Basic
import DeviceConfig.Core.Schema

/-!
The section `core` as code.
-/

namespace DeviceConfig.Core

/-- The trigger of the start, which takes its priority if one is given. -/
def startup (node : Node) : Cpp.Expr :=
  let args := (((node.get? "priority").bind (·.value.number?)).map Cpp.Expr.float).toList
  Automation.register (.allocate startupTrigger args)

def shutdown (_ : Node) : Cpp.Expr := .allocate shutdownTrigger []

def loop (_ : Node) : Cpp.Expr := Automation.register (.allocate loopTrigger [])

def texts (node : Node) (key : String) : List String :=
  match node.get? key with
  | some list => list.items.filterMap (·.value.string?)
  | none => []

def addLibraries : List String → Build Unit
  | [] => return ()
  | library :: rest => do
    Build.addLibrary library
    addLibraries rest

/-- Files of the user, found from the directory of the configuration and included from that of the
    program. -/
def addIncludes (paths : BuildFolders) : List String → Build Unit
  | [] => return ()
  | file :: rest => do
    Build.addInclude (includeLine (paths.resolve file) paths.mainFile)
    addIncludes paths rest

def buildSection (node : Node) : Build Unit := do
  match node.string? "name" with
  | none => Build.lacking node .deviceName
  | some name =>
    Build.evaluate (Cpp.Expr.app.call "set_name" [.string name])
    Automation.buildUnder "on_boot" startupTrigger .noArg startup node
    Automation.buildUnder "on_shutdown" shutdownTrigger .constCharPointer shutdown node
    Automation.buildUnder "on_loop" loopTrigger .noArg loop node
    Build.evaluate (Cpp.Expr.app.call "set_compilation_datetime" [.raw "__DATE__ \", \" __TIME__"])
    addLibraries (texts node "libraries")
    addIncludes (← get).paths (texts node "includes")

end DeviceConfig.Core
