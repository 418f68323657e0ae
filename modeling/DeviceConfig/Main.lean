import DeviceConfig.CommandLine.Help

/-!
The program on the files and streams of the machine.
-/

namespace DeviceConfig.CommandLine

/-- Writes a file together with the folders that it needs. -/
def writeFile (path content : String) : IO Unit := do
  if let some parent := FilePath.parent? path then
    unless parent.isEmpty do
      IO.FS.createDirAll parent
  IO.FS.writeFile path content

def complain (e : CompileError) : IO Unit := do
  let out ← IO.getStderr
  out.putStrLn ("Error: " ++ e.message)
  if let some help := e.help? then
    out.putStrLn ("help: " ++ help)
  if let .invalid problems := e then
    for problem in problems do
      for part in problem.flatten do
        out.putStrLn ("  " ++ part.text)

/-- Shows what a command has to say, and gives its exit code. -/
def conclude (outcome : Outcome) : IO UInt32 := do
  for line in outcome.log do
    (← IO.getStderr).putStrLn line
  IO.print outcome.output
  for note in outcome.notes do
    (← IO.getStderr).putStrLn note
  if let some e := outcome.error then
    complain e
  return UInt32.ofNat outcome.exitCode

def runCommand (command : Command) (verbose : Bool) : IO UInt32 := do
  match ← (IO.FS.readFile command.file).toBaseIO with
  | .error _ => conclude ⟨[], "", [], some (unreadableFile command.file)⟩
  | .ok text =>
    let effects := command.effects text
    let log := if verbose then effects.log else []
    for (path, content) in effects.writes do
      if let .error _ ← (writeFile path content).toBaseIO then
        return ← conclude ⟨log, "", [], some (unwritableFile path)⟩
    conclude ⟨log, effects.output, effects.notes, effects.error⟩

end DeviceConfig.CommandLine

open DeviceConfig.CommandLine

def main (arguments : List String) : IO UInt32 := do
  match Request.ofArguments arguments with
  | .run command verbose => runCommand command verbose
  | .misuse =>
    (← IO.getStderr).putStrLn programHelp
    return UInt32.ofNat misuseCode
  | request =>
    IO.print (request.text?.getD "")
    return 0
