import DeviceConfig.CommandLine.Command
import DeviceConfig.Text.Search

/-!
The arguments of the program: options, the name of a command, and the options and the file of that
command. Arguments are read from the first to the last, so that a request for help counts unless there
is a mistake before it.
-/

namespace DeviceConfig.CommandLine

/-- What may follow an option. -/
inductive Operand where
  | nothing
  | path
  | text
  deriving Repr, DecidableEq

/-- An option that starts with two dashes or, by its letter, with one. -/
structure Choice where
  long : String
  letter : Option Char
  operand : Operand
  deriving Repr, DecidableEq

def helpChoice : Choice := ⟨"help", some 'h', .nothing⟩

def versionChoice : Choice := ⟨"version", some 'V', .nothing⟩

def verboseChoice : Choice := ⟨"verbose", some 'v', .nothing⟩

inductive CommandName where
  | compile
  | check
  | config
  deriving Repr, DecidableEq

namespace CommandName

def all : List CommandName := [compile, check, config]

def text : CommandName → String
  | compile => "compile"
  | check => "check"
  | config => "config"

def ofText? (text : String) : Option CommandName := all.find? (·.text == text)

def choices : CommandName → List Choice
  | compile =>
    [⟨"output", some 'o', .path⟩, ⟨"metadata", none, .path⟩, ⟨"fragment", none, .nothing⟩,
      ⟨"build-path", none, .path⟩, verboseChoice, helpChoice]
  | check => [verboseChoice, helpChoice]
  | config => [⟨"format", some 'f', .text⟩, verboseChoice, helpChoice]

end CommandName

/-- Why reading ends before the last argument. -/
inductive Stop where
  | misuse
  | help
  | version
  deriving Repr, DecidableEq

structure Given where
  /-- The options by their long names; an option that nothing follows has an empty text. -/
  options : Entries String
  file : Option String
  /-- An option whose operand is the next argument. -/
  waiting : Option Choice

namespace Given

def start : Given := ⟨[], none, none⟩

/-- Adds an option with its operand. No option may come twice, and no path may be empty. -/
def add (given : Given) (choice : Choice) (operand : String) : Except Stop Given :=
  if choice = helpChoice then .error .help
  else if choice = versionChoice then .error .version
  else if Entries.contains choice.long given.options then .error .misuse
  else if choice.operand = .path ∧ operand = "" then .error .misuse
  else .ok { given with options := Entries.set choice.long operand given.options, waiting := none }

def addFile (given : Given) (path : String) : Except Stop Given :=
  if given.file.isSome ∨ path = "" then .error .misuse else .ok { given with file := some path }

/-- Letters after one dash. What follows the letter of an option with an operand is the operand. -/
def addLetters (choices : List Choice) (given : Given) : List Char → Except Stop Given
  | [] => .ok given
  | letter :: rest =>
    match choices.find? (·.letter == some letter) with
    | none => .error .misuse
    | some choice =>
      if choice.operand = .nothing then
        match given.add choice "" with
        | .error stop => .error stop
        | .ok next => next.addLetters choices rest
      else
        match rest with
        | [] => .ok { given with waiting := some choice }
        | '=' :: operand => given.add choice (String.ofList operand)
        | operand => given.add choice (String.ofList operand)

/-- The text after two dashes: a long name, and an operand after an equals sign. -/
def addLong (choices : List Choice) (given : Given) (text : List Char) : Except Stop Given :=
  let (name, operand) : List Char × Option (List Char) :=
    match Text.cutAtChar? '=' text with
    | some (name, operand) => (name, some operand)
    | none => (text, none)
  match choices.find? (·.long == String.ofList name), operand with
  | none, _ => .error .misuse
  | some choice, some operand =>
    if choice.operand = .nothing then .error .misuse
    else given.add choice (String.ofList operand)
  | some choice, none =>
    if choice.operand = .nothing then given.add choice ""
    else .ok { given with waiting := some choice }

/-- One argument before a pair of dashes that stands alone. -/
def addArgument (choices : List Choice) (given : Given) (argument : String) : Except Stop Given :=
  match given.waiting, argument.toList with
  | some _, '-' :: _ :: _ => .error .misuse
  | some choice, _ => given.add choice argument
  | none, '-' :: '-' :: text => given.addLong choices text
  | none, '-' :: letter :: rest => given.addLetters choices (letter :: rest)
  | none, _ => given.addFile argument

end Given

/-- Reads the arguments of a command. After a pair of dashes that stands alone there are only files. -/
def readArguments (choices : List Choice) (onlyFiles : Bool) (given : Given) :
    List String → Except Stop Given
  | [] => if given.waiting.isSome then .error .misuse else .ok given
  | argument :: rest =>
    let next :=
      if onlyFiles then given.addFile argument
      else if argument = "--" then
        if given.waiting.isSome then .error .misuse else .ok given
      else given.addArgument choices argument
    match next with
    | .error stop => .error stop
    | .ok given => readArguments choices (onlyFiles || argument = "--") given rest

def commandOf (name : CommandName) (given : Given) : Except Stop Command :=
  let operand (long : String) := Entries.get? long given.options
  match given.file with
  | none => .error .misuse
  | some file =>
    match name with
    | .compile => .ok (.compile file (operand "output") (operand "metadata")
        (operand "fragment").isSome (operand "build-path"))
    | .check => .ok (.check file)
    | .config => .ok (.config file ((operand "format").getD "yaml"))

/-- Whether the log is wanted. -/
def Given.verbose (given : Given) : Bool := Entries.contains verboseChoice.long given.options

inductive Request where
  | run (command : Command) (verbose : Bool)
  /-- Help on one command, or on the program. -/
  | help (name : Option CommandName)
  /-- Help on the command that gives help. -/
  | helpOnHelp
  | version
  | misuse
  deriving Repr, DecidableEq

/-- What is wanted of a command. The log may have been asked for before the command's name. -/
def requestOf (name : CommandName) (verbose : Bool) (arguments : List String) : Request :=
  let request := do
    let given ← readArguments name.choices false .start arguments
    let command ← commandOf name given
    return Request.run command (verbose || given.verbose)
  match request with
  | .ok request => request
  | .error .help => .help (some name)
  | .error .version => .version
  | .error .misuse => .misuse

/-- The commands on which help is wanted; only the program has commands. -/
def helpRequest : List String → Request
  | [] => .help none
  | ["help"] => .helpOnHelp
  | [name] =>
    match CommandName.ofText? name with
    | some name => .help (some name)
    | none => .misuse
  | _ => .misuse

def programChoices : List Choice := [verboseChoice, helpChoice, versionChoice]

def readRequest (given : Given) : List String → Request
  | [] => .misuse
  | argument :: rest =>
    match argument.toList with
    | '-' :: _ :: _ =>
      if argument = "--" then .misuse
      else
        match given.addArgument programChoices argument with
        | .ok given => readRequest given rest
        | .error .help => .help none
        | .error .version => .version
        | .error .misuse => .misuse
    | _ =>
      if argument = "help" then helpRequest rest
      else
        match CommandName.ofText? argument with
        | some name => requestOf name given.verbose rest
        | none => .misuse

def Request.ofArguments (arguments : List String) : Request := readRequest .start arguments

end DeviceConfig.CommandLine
