import DeviceConfig.CommandLine.Arguments

/-!
The texts that describe the commands and their options, and running requests.
-/

namespace DeviceConfig.CommandLine

/-- Rows of two columns; the second starts two blanks after the longest first one. -/
def table (rows : List (String × String)) : List String :=
  let width := ((rows.map fun (name, _) => name.length).max?).getD 0
  rows.map fun (name, text) =>
    "  " ++ name ++ String.ofList (List.replicate (width - name.length) ' ') ++ "  " ++ text

def helpText (about usage : String) (groups : List (String × List (String × String))) : String :=
  let parts := [about, "Usage: confgen " ++ usage] ++
    groups.map fun (title, rows) => String.intercalate "\n" ((title ++ ":") :: table rows)
  String.intercalate "\n\n" parts ++ "\n"

def CommandName.about : CommandName → String
  | compile => "Generate main.cpp (or the setup fragment) for a configuration"
  | check => "Validate a configuration and its code generation without writing files"
  | config => "Print the normalized configuration"

def helpAbout : String := "Print this message or the help of the given subcommand(s)"

def verboseRow : String × String := ("-v, --verbose", "Enable debug logging")

def helpRow : String × String := ("-h, --help", "Print help")

def CommandName.optionRows : CommandName → List (String × String)
  | compile =>
    [("-o, --output <OUTPUT>", "Output file; defaults to <build_path>/src/main.cpp"), verboseRow,
      ("    --metadata <METADATA>", "Write build metadata (libraries, flags, includes) as JSON"),
      ("    --fragment", "Emit only the setup statements to stdout"),
      ("    --build-path <BUILD_PATH>", "Build directory to use instead of core.build_path"),
      helpRow]
  | check => [verboseRow, helpRow]
  | config =>
    [("-f, --format <FORMAT>", "Output format: yaml, json [default: yaml]"), verboseRow, helpRow]

def CommandName.help (name : CommandName) : String :=
  helpText name.about (name.text ++ " [OPTIONS] <FILE>")
    [("Arguments", [("<FILE>", "Configuration file")]), ("Options", name.optionRows)]

def programHelp : String :=
  helpText "Compiles declarative device configuration into C++ setup code and build metadata"
    "[OPTIONS] <COMMAND>"
    [("Commands", (CommandName.all.map fun name => (name.text, name.about)) ++
        [("help", helpAbout)]),
      ("Options", [verboseRow, helpRow, ("-V, --version", "Print version")])]

def helpOnHelpText : String :=
  helpText helpAbout "help [COMMAND]..."
    [("Arguments", [("[COMMAND]...", "Print help for the subcommand(s)")])]

def versionText : String := "confgen 0.1.0\n"

def Request.text? : Request → Option String
  | .run _ _ | .misuse => none
  | .help (some name) => some name.help
  | .help none => some programHelp
  | .helpOnHelp => some helpOnHelpText
  | .version => some versionText

/-- How the program ends when it is used wrongly. -/
def misuseCode : Nat := 2

def runIn (tree : FileTree) (arguments : List String) : FileTree × Outcome × Nat :=
  match Request.ofArguments arguments with
  | .run command verbose =>
    let (after, outcome) := command.runIn verbose tree
    (after, outcome, outcome.exitCode)
  | .misuse => (tree, ⟨[], "", [], none⟩, misuseCode)
  | request => (tree, ⟨[], request.text?.getD "", [], none⟩, 0)

end DeviceConfig.CommandLine
