import DeviceConfig.Program.Draft
import DeviceConfig.Program.Order
import DeviceConfig.Program.OutputForm
import DeviceConfig.Program.Text

/-!
Finished programs, and the two forms in which they are written out.
-/

namespace DeviceConfig

structure Program where
  statements : List Cpp.Statement
  symbols : Symbols
  metadata : Metadata
  /-- The checked configuration that the program was made from. -/
  config : Node

/-- The texts of statements, one after the other. -/
def statementTexts (s : Symbols) : List Cpp.Statement → Except CompileError (List String)
  | [] => .ok []
  | statement :: rest => do
    let text ← statement.text s
    let texts ← statementTexts s rest
    return text :: texts

/-- The program of a draft all of whose statements can be written and whose locals are bound before
    they are used. -/
def Draft.toProgram (draft : Draft) (config : Node) : Except CompileError Program := do
  let _ ← statementTexts draft.symbols draft.statements
  draft.symbols.checkOrder draft.statements
  return ⟨draft.statements, draft.symbols, draft.metadata, config⟩

namespace Program

def joinLines (lines : List String) : String := String.join (lines.map fun line => line ++ "\n")

/-- The statements of the setup function, without the function. -/
def fragment (p : Program) : Except CompileError String := do
  let texts ← statementTexts p.symbols p.statements
  return joinLines texts

/-- The global declarations of the statements. -/
def globals (p : Program) : List String := p.statements.filterMap (Cpp.Statement.global? p.symbols)

/-- Everything before the setup function. -/
def preamble (p : Program) : String :=
  let globals := joinLines p.globals
  joinLines (["// Auto generated code by confgen", "#include \"esphomelib/application.h\""] ++
    p.metadata.includes ++ ["", "using namespace esphomelib;"]) ++
    (if p.globals.isEmpty then "" else "\n" ++ globals) ++ "\n"

/-- The setup and loop functions around the statements. -/
def functions (fragment : String) : String :=
  joinLines ["void setup() \x7b",
    "  // ===== DO NOT EDIT ANYTHING BELOW THIS LINE =====",
    "  // ========== AUTO GENERATED CODE BEGIN ==========="] ++
    Text.indent indentStep fragment ++
    joinLines ["  // =========== AUTO GENERATED CODE END ============",
      "  // ========= YOU CAN EDIT AFTER THIS LINE =========",
      "  App.setup();",
      "\x7d",
      "",
      "void loop() \x7b",
      "  App.loop();",
      "  delay(16);",
      "\x7d"]

def mainText (p : Program) : Except CompileError String := do
  let fragment ← p.fragment
  return p.preamble ++ functions fragment

def output (p : Program) : OutputForm → Except CompileError String
  | .fragment => p.fragment
  | .main => p.mainText

end Program

end DeviceConfig
