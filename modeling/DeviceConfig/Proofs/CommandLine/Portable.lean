import DeviceConfig.Compile
import DeviceConfig.Proofs.Check.Accepted
import DeviceConfig.Proofs.Generation.Closed
import DeviceConfig.Proofs.Generation.Switches

/-!
Where a program is built has no say in its names and statements: only the lines that include the user's
files depend on it, and these are kept apart from the statements. Each step that builds a part of the
program is portable in this sense, and so is the whole (`Catalog.isPortable_buildAll`).
-/

namespace DeviceConfig

/-- The drafts have the same names and statements. They may be of programs that are built elsewhere and
    need other things besides their code. -/
structure Draft.Alike (d e : Draft) : Prop where
  symbols : d.symbols = e.symbols
  statements : d.statements = e.statements

namespace Build

variable {α β : Type}

/-- The step gives the same result and the same code for drafts that are alike. -/
def IsPortable (step : Build α) : Prop :=
  ∀ d e, d.Alike e → (step.apply d).1 = (step.apply e).1 ∧ (step.apply d).2.Alike (step.apply e).2

section Steps

theorem isPortable_pure (a : α) : IsPortable (pure a) := fun _ _ alike => ⟨rfl, alike⟩

theorem isPortable_throw (e : CompileError) : IsPortable (throw e : Build α) := fun _ _ alike => ⟨rfl, alike⟩

theorem IsPortable.bind {first : Build α} {next : α → Build β} (portable : IsPortable first)
    (rest : ∀ a, IsPortable (next a)) : IsPortable (first >>= next) := by
  intro d e alike
  obtain ⟨same, between⟩ := portable d e alike
  rw [apply_bind, apply_bind]
  rcases outcome : first.apply d with ⟨result, later⟩
  rcases other : first.apply e with ⟨resultToo, laterToo⟩
  rw [outcome, other] at same between
  obtain rfl : result = resultToo := same
  cases result with
  | error error => exact ⟨rfl, between⟩
  | ok a => exact rest a later laterToo between

/-- What follows from a look at the draft may use its names and statements only. -/
theorem isPortable_get_bind {next : Draft → Build β} (same : ∀ d e, d.Alike e → next d = next e)
    (rest : ∀ d, IsPortable (next d)) : IsPortable (get >>= next) := by
  intro d e alike
  have held (draft : Draft) : (get >>= next).apply draft = (next draft).apply draft := rfl
  rw [held, held, same d e alike]
  exact rest e d e alike

theorem isPortable_modify {change : Draft → Draft} (keeps : ∀ d e, d.Alike e → (change d).Alike (change e)) :
    IsPortable (modify change) := fun d e alike => ⟨rfl, keeps d e alike⟩

theorem isPortable_ofSymbols (read : Symbols → Except CompileError α) : IsPortable (ofSymbols read) := by
  intro d e alike
  rw [apply_ofSymbols, apply_ofSymbols]
  exact ⟨congrArg read alike.symbols, alike⟩

theorem isPortable_setSymbols (symbols : Symbols) : IsPortable (setSymbols symbols) :=
  isPortable_modify fun _ _ alike => ⟨rfl, alike.statements⟩

theorem isPortable_lacking (node : Node) (lack : Lack) : IsPortable (lacking node lack : Build α) :=
  isPortable_throw _

theorem isPortable_enter (component : String) : IsPortable (enter component) :=
  isPortable_modify fun _ _ alike => ⟨by simp only [alike.symbols], alike.statements⟩

theorem isPortable_addLibrary (library : String) : IsPortable (addLibrary library) :=
  isPortable_modify fun _ _ alike => ⟨alike.symbols, alike.statements⟩

theorem isPortable_addFlag (flag : String) : IsPortable (addFlag flag) :=
  isPortable_modify fun _ _ alike => ⟨alike.symbols, alike.statements⟩

theorem isPortable_append (statement : Cpp.Statement) : IsPortable (append statement) :=
  isPortable_modify fun _ _ alike => ⟨alike.symbols, by simp only [alike.statements]⟩

theorem isPortable_evaluate (expression : Cpp.Expr) : IsPortable (evaluate expression) :=
  isPortable_append _

theorem isPortable_declare (hint : String) (type : CppType) (binding : Cpp.Binding) :
    IsPortable (declare hint type binding) :=
  isPortable_get_bind (fun d e alike => by rw [alike.symbols]) fun _ =>
    (isPortable_setSymbols _).bind fun _ => isPortable_pure _

theorem isPortable_declareObject (id : ObjectId) (binding : Cpp.Binding) :
    IsPortable (declareObject id binding) :=
  isPortable_get_bind (fun d e alike => by rw [alike.symbols]) fun _ =>
    (isPortable_setSymbols _).bind fun _ => isPortable_pure _

theorem isPortable_refine (symbol : Cpp.Symbol) (type : Option CppType) (binding : Cpp.Binding) :
    IsPortable (refine symbol type binding) :=
  (isPortable_ofSymbols _).bind fun _ => (isPortable_setSymbols _).bind fun _ => isPortable_pure _

theorem isPortable_define (symbol : Cpp.Symbol) (definition : Cpp.Expr) :
    IsPortable (define symbol definition) :=
  (isPortable_ofSymbols _).bind fun _ => isPortable_setSymbols _

theorem isPortable_bindSymbol (symbol : Cpp.Symbol) (definition : Cpp.Expr) :
    IsPortable (bind symbol definition) :=
  (isPortable_define symbol definition).bind fun _ => isPortable_append _

theorem isPortable_symbolOf (id : ObjectId) (type : Option CppType) (binding : Cpp.Binding) :
    IsPortable (symbolOf id type binding) := by
  unfold symbolOf
  cases id.role with
  | generated => exact isPortable_declare _ _ _
  | declared =>
    refine isPortable_get_bind (fun d e alike => by rw [alike.symbols]) fun d => ?_
    cases d.symbols.resolve id.name with
    | ok symbol => exact isPortable_refine _ _ _
    | error e => exact (isPortable_declareObject _ _).bind fun _ => isPortable_refine _ _ _
  | used => exact (isPortable_ofSymbols _).bind fun _ => isPortable_refine _ _ _

theorem isPortable_bindGlobal (id : ObjectId) (definition : Cpp.Expr) (type : Option CppType) :
    IsPortable (bindGlobal id definition type) :=
  (isPortable_symbolOf id type _).bind fun _ => (isPortable_bindSymbol _ _).bind fun _ => isPortable_pure _

end Steps

theorem isPortable_declareAllAhead (ids : List ObjectId) : IsPortable (declareAllAhead ids) := by
  induction ids with
  | nil => exact isPortable_pure _
  | cons id rest ih => exact (isPortable_declareObject id _).bind fun _ => ih

theorem isPortable_declareSectionsAhead (sections : List (String × Node)) :
    IsPortable (declareSectionsAhead sections) := by
  induction sections with
  | nil => exact isPortable_pure _
  | cons first rest ih =>
    exact (isPortable_enter _).bind fun _ => (isPortable_declareAllAhead _).bind fun _ => ih

end Build

open Build

namespace Automation

theorem isPortable_bindNew (template : String) (arg : CppType) (definition : Cpp.Expr) :
    IsPortable (bindNew template arg definition) :=
  (isPortable_declare _ _ _).bind fun _ => (isPortable_bindSymbol _ _).bind fun _ => isPortable_pure _

end Automation

theorem Build.isClosed_isPortable : IsClosed fun _ => IsPortable where
  pure := isPortable_pure
  throw := isPortable_throw
  bind := IsPortable.bind
  ofSymbols := isPortable_ofSymbols
  evaluate := isPortable_evaluate
  nameLambda := isPortable_declare _ _ _
  define := isPortable_define
  bindNew arg definition _ := Automation.isPortable_bindNew _ arg definition

namespace Automation

variable (arg : CppType) (node : Node)

theorem isPortable_connect (id : ObjectId) (trigger : Cpp.Expr) (list : Node) :
    IsPortable (connect id trigger arg list) :=
  (isPortable_bindGlobal _ _ _).bind fun _ => ((isClosed_isPortable.action arg list.value).2.1 _).bind fun _ =>
    (isClosed_isPortable.addActions _ _ _).bind fun _ => isPortable_pure _

theorem isPortable_build (trigger : Cpp.Expr) : IsPortable (build trigger arg node) := by
  unfold build
  split
  · exact isPortable_connect _ _ _ _
  · exact isPortable_lacking _ _

variable (trigger : CppType) (makeTrigger : Node → Cpp.Expr)

theorem isPortable_buildAll (nodes : List Node) : IsPortable (buildAll trigger arg makeTrigger nodes) := by
  induction nodes with
  | nil => exact isPortable_pure _
  | cons node rest ih =>
    exact (isPortable_bindGlobal _ _ _).bind fun _ => (isPortable_build _ _ _).bind fun _ => ih

theorem isPortable_buildUnder (key : String) :
    IsPortable (buildUnder key trigger arg makeTrigger node) := by
  unfold buildUnder
  split
  · exact isPortable_buildAll _ _ _ _
  · exact isPortable_pure _

end Automation

namespace Core

theorem isPortable_addLibraries (libraries : List String) : IsPortable (addLibraries libraries) := by
  induction libraries with
  | nil => exact isPortable_pure _
  | cons library rest ih => exact (isPortable_addLibrary _).bind fun _ => ih

theorem alike_addIncludes (files : List String) (paths paths' : BuildFolders) {d e : Draft} (alike : d.Alike e) :
    ((addIncludes paths files).apply d).1 = ((addIncludes paths' files).apply e).1 ∧
      ((addIncludes paths files).apply d).2.Alike ((addIncludes paths' files).apply e).2 := by
  induction files generalizing d e with
  | nil => exact ⟨rfl, alike⟩
  | cons file rest ih => exact ih ⟨alike.symbols, alike.statements⟩

/-- The lines that include the user's files differ, but they are no statements. -/
theorem isPortable_addIncludes (files : List String) :
    IsPortable (do addIncludes (← get).paths files) := by
  intro d e alike
  have held (draft : Draft) : (get >>= fun read : Draft => addIncludes read.paths files).apply draft =
      (addIncludes draft.paths files).apply draft := by
    rw [apply_bind]
    rfl
  rw [held, held]
  exact alike_addIncludes files _ _ alike

theorem isPortable_buildSection (node : Node) : IsPortable (buildSection node) := by
  unfold buildSection
  split
  · exact isPortable_lacking _ _
  · exact (isPortable_evaluate _).bind fun _ =>
      (Automation.isPortable_buildUnder _ _ _ _ _).bind fun _ =>
      (Automation.isPortable_buildUnder _ _ _ _ _).bind fun _ =>
      (Automation.isPortable_buildUnder _ _ _ _ _).bind fun _ =>
      (isPortable_evaluate _).bind fun _ => (isPortable_addLibraries _).bind fun _ =>
      isPortable_addIncludes _

end Core

theorem Build.isPortable_optionally {α : Type} (option : Option α) {step : α → Build Unit}
    (each : ∀ a, IsPortable (step a)) : IsPortable (optionally option step) := by
  cases option with
  | none => exact isPortable_pure _
  | some a => exact each a

namespace Switch

variable (switch : Cpp.Expr) (node : Node)

theorem isPortable_setUp : IsPortable (setUp switch node) := by
  rw [setUp_eq]
  exact (isPortable_optionally _ fun _ => isPortable_evaluate _).bind fun _ =>
    (isPortable_optionally _ fun _ => isPortable_evaluate _).bind fun _ =>
    (Automation.isPortable_buildUnder _ _ _ _ _).bind fun _ => Automation.isPortable_buildUnder _ _ _ _ _

theorem isPortable_register : IsPortable (register switch node) :=
  (isPortable_evaluate _).bind fun _ => isPortable_setUp switch node

theorem isPortable_require (key : String) : IsPortable (require node key) := by
  unfold require
  split
  · exact isPortable_pure _
  · exact isPortable_lacking _ _

theorem isPortable_requireId (entry : Node) : IsPortable (requireId node entry) := by
  unfold requireId
  split
  · exact isPortable_pure _
  · exact isPortable_lacking _ _

theorem isPortable_retrieve (constructor : Cpp.Expr) (position : Nat) (entries : List Node) :
    IsPortable (retrieve node constructor position entries) := by
  induction entries generalizing position with
  | nil => exact isPortable_pure _
  | cons entry rest ih =>
    exact (isPortable_requireId node entry).bind fun _ => (isPortable_bindGlobal _ _ _).bind fun _ =>
      (ih (position + 1)).bind fun _ => isPortable_pure _

theorem isPortable_registerAll (retrieved : List (Cpp.Expr × Node)) : IsPortable (registerAll retrieved) := by
  induction retrieved with
  | nil => exact isPortable_pure _
  | cons first rest ih =>
    rw [registerAll_cons]
    exact (isPortable_optionally _ fun _ => isPortable_evaluate _).bind fun _ =>
      (isPortable_register _ _).bind fun _ => ih

theorem isPortable_buildCustom : IsPortable (buildCustom node) :=
  (isPortable_require node _).bind fun lambda => (isPortable_requireId node node).bind fun _ =>
    (isPortable_require node _).bind fun _ => (isClosed_isPortable.lambdaAhead lambda _ _).bind fun pending =>
    (isPortable_bindGlobal _ _ _).bind fun _ => (isClosed_isPortable.defineLambda pending).bind fun _ =>
    (isPortable_retrieve _ _ _ _).bind fun _ => (isPortable_registerAll _).bind fun _ => isPortable_addFlag _

theorem isPortable_connectActions (key trigger : String) :
    IsPortable (connectActions key trigger switch node) := by
  unfold connectActions
  split
  · exact (Automation.isPortable_connect _ _ _ _).bind fun _ => isPortable_pure _
  · exact isPortable_pure _

theorem isPortable_buildTemplate : IsPortable (buildTemplate node) := by
  rw [buildTemplate_eq]
  exact (isPortable_requireId node node).bind fun _ => (isPortable_bindGlobal _ _ _).bind fun _ =>
    (isPortable_register _ _).bind fun _ =>
    (isPortable_optionally _ fun lambda =>
      (isClosed_isPortable.compileLambda lambda _ _).bind fun _ => isPortable_evaluate _).bind fun _ =>
    (isPortable_optionally _ fun _ => isPortable_evaluate _).bind fun _ =>
    (isPortable_connectActions _ _ _ _).bind fun _ => (isPortable_connectActions _ _ _ _).bind fun _ =>
    isPortable_addFlag _

theorem isPortable_buildEntry : IsPortable (buildEntry node) := by
  unfold buildEntry
  dsimp only
  split
  · rename_i platform _
    refine (isPortable_enter _).bind fun _ => (isPortable_addFlag _).bind fun _ => ?_
    cases platform with
    | custom => exact isPortable_buildCustom node
    | template => exact isPortable_buildTemplate node
  · exact isPortable_lacking _ _

theorem isPortable_buildSection : IsPortable (buildSection node) := by
  unfold buildSection
  induction node.items with
  | nil => exact isPortable_pure _
  | cons entry rest ih => exact (isPortable_buildEntry entry).bind fun _ => ih

end Switch

namespace Catalog

variable {catalog : Catalog}

theorem isPortable_buildSections
    (each : ∀ key component, catalog.component? key = some component → ∀ node, IsPortable (component.build node))
    (sections : List (String × Node)) : IsPortable (catalog.buildSections sections) := by
  induction sections with
  | nil => exact isPortable_pure _
  | cons first rest ih =>
    unfold buildSections
    split
    · exact isPortable_throw _
    · rename_i component found
      exact (isPortable_enter _).bind fun _ => (each _ component found _).bind fun _ => ih

theorem isPortable_buildAll (config : Node) : IsPortable (standard.buildAll config) := by
  refine (isPortable_declareSectionsAhead _).bind fun _ => isPortable_buildSections ?_ _
  intro key component found node
  rcases standard_component_cases found with ⟨-, rfl⟩ | ⟨-, rfl⟩
  · exact Core.isPortable_buildSection node
  · exact Switch.isPortable_buildSection node

end Catalog

end DeviceConfig
