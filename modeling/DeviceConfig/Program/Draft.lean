import DeviceConfig.Build.Metadata
import DeviceConfig.Program.Symbols

/-!
A program under construction. Steps that fail keep what was built before.
-/

namespace DeviceConfig

structure Draft where
  symbols : Symbols
  statements : List Cpp.Statement
  metadata : Metadata
  paths : BuildFolders

def Draft.start (paths : BuildFolders) : Draft := ⟨.empty, [], .empty, paths⟩

/-- A step that builds on a draft. -/
abbrev Build (α : Type) := ExceptT CompileError (StateM Draft) α

namespace Build

def apply {α : Type} (step : Build α) (draft : Draft) : Except CompileError α × Draft :=
  (ExceptT.run step).run draft

/-- A reading of the names that may fail. -/
def ofSymbols {α : Type} (read : Symbols → Except CompileError α) : Build α := do
  let draft ← get
  match read draft.symbols with
  | .ok a => return a
  | .error e => throw e

def setSymbols (symbols : Symbols) : Build Unit :=
  modify fun draft => { draft with symbols := symbols }

def lacking {α : Type} (node : Node) (lack : Lack) : Build α := throw (.lacking node.path lack)

/-- What follows is built on behalf of this component. -/
def enter (component : String) : Build Unit :=
  modify fun draft => { draft with symbols := { draft.symbols with component := component } }

def addLibrary (library : String) : Build Unit :=
  modify fun draft => { draft with metadata := draft.metadata.addLibrary library }

/-- Asks for a compiler flag on behalf of the current component. -/
def addFlag (flag : String) : Build Unit :=
  modify fun draft => { draft with metadata := draft.metadata.addFlag flag draft.symbols.component }

def addInclude (directive : String) : Build Unit :=
  modify fun draft => { draft with metadata := draft.metadata.addInclude directive }

def append (statement : Cpp.Statement) : Build Unit :=
  modify fun draft => { draft with statements := draft.statements ++ [statement] }

def evaluate (expression : Cpp.Expr) : Build Unit := append (.run expression)

/-- Declares a name of the program's own. -/
def declare (hint : String) (type : CppType) (binding : Cpp.Binding) : Build Cpp.Symbol := do
  let (symbol, symbols) := (← get).symbols.declare hint type binding
  setSymbols symbols
  return symbol

def declareObject (id : ObjectId) (binding : Cpp.Binding) : Build Cpp.Symbol := do
  let (symbol, symbols) := (← get).symbols.declareObject id binding
  setSymbols symbols
  return symbol

/-- Declares an object that the user named before there is code for it, so that other code may refer
    to it. -/
def declareAhead (id : ObjectId) : Build Cpp.Symbol := declareObject id .pointer

def refine (symbol : Cpp.Symbol) (type : Option CppType) (binding : Cpp.Binding) :
    Build Cpp.Symbol := do
  let (refined, symbols) ← ofSymbols fun symbols => symbols.refine symbol type binding
  setSymbols symbols
  return refined

def define (symbol : Cpp.Symbol) (definition : Cpp.Expr) : Build Unit := do
  let symbols ← ofSymbols fun symbols => symbols.define symbol definition
  setSymbols symbols

/-- The symbol for an object that is about to be bound. An object that the user named has one from
    before, which takes the type, if one is given, and the binding; another object gets its symbol
    now. -/
def symbolOf (id : ObjectId) (type : Option CppType) (binding : Cpp.Binding) : Build Cpp.Symbol := do
  match id.role with
  | .generated => declare id.name (type.getD id.type) binding
  | .declared =>
    match (← get).symbols.resolve id.name with
    | .ok symbol => refine symbol type binding
    | .error _ =>
      let symbol ← declareObject id binding
      refine symbol type binding
  | .used =>
    let symbol ← ofSymbols fun symbols => symbols.resolve id.name
    refine symbol type binding

/-- The expression for the object that a name of the configuration stands for. -/
def object (id : ObjectId) : Build Cpp.Expr :=
  ofSymbols fun symbols => do
    let symbol ← symbols.resolve id.name
    symbols.reference symbol

def bind (symbol : Cpp.Symbol) (definition : Cpp.Expr) : Build Unit := do
  define symbol definition
  append (.bind symbol definition)

/-- Binds an object to a local of the setup function. -/
def bindLocal (id : ObjectId) (definition : Cpp.Expr) (type : Option CppType) :
    Build Cpp.Symbol := do
  let symbol ← symbolOf id type .value
  bind symbol definition
  return symbol

/-- Binds an object to a global pointer. -/
def bindGlobal (id : ObjectId) (definition : Cpp.Expr) (type : Option CppType) :
    Build Cpp.Symbol := do
  let symbol ← symbolOf id type .pointer
  bind symbol definition
  return symbol

end Build

end DeviceConfig
