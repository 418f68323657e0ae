import DeviceConfig.Proofs.Generation.Lambdas
import DeviceConfig.Proofs.Program.Contents

/-!
What building adds to a draft. Automations are assembled out of objects and lambdas under new names, so all that a
step does to a draft is to add declarations and statements at the end (`Draft.plus`).
-/

namespace DeviceConfig

namespace Build

variable {α β : Type} {d next : Draft}

/-- What holds after the step if it does not fail. -/
abbrev Ensures (step : Build α) (d : Draft) (holds : α → Draft → Prop) : Prop :=
  step.Yields d (fun _ => True) holds

theorem ensures_iff {step : Build α} {holds : α → Draft → Prop} :
    Ensures step d holds ↔ ∀ a next, step.apply d = (.ok a, next) → holds a next := by
  rw [Ensures, Yields]
  rcases step.apply d with ⟨e | a, later⟩
  · simp
  · constructor
    · rintro held _ _ ⟨⟩
      exact held
    · intro each
      exact each a later rfl

theorem yields_of_apply {step : Build α} {fails : CompileError → Prop} {holds : α → Draft → Prop} {a : α}
    (run : step.apply d = (.ok a, next)) (done : holds a next) : step.Yields d fails holds := by
  rw [Yields, run]
  exact done

theorem Yields.and {step : Build α} {fails : CompileError → Prop} {holds also : α → Draft → Prop}
    (yields : step.Yields d fails holds) (ensures : Ensures step d also) :
    Ensures step d fun a next => holds a next ∧ also a next := by
  refine ensures_iff.mpr fun a next run => ⟨?_, ensures_iff.mp ensures a next run⟩
  rw [Yields, run] at yields
  exact yields

theorem exists_apply_of_isOk {step : Build α} (succeeds : (step.apply d).1.isOk = true) :
    ∃ a next, step.apply d = (.ok a, next) := by
  rcases outcome : step.apply d with ⟨e | a, later⟩
  · rw [outcome] at succeeds
    cases succeeds
  · exact ⟨a, later, rfl⟩

end Build

/-- Declarations and statements at the end of a draft. -/
structure Addition where
  declarations : List Declaration
  statements : List Cpp.Statement

namespace Addition

instance : Append Addition := ⟨fun a b => ⟨a.declarations ++ b.declarations, a.statements ++ b.statements⟩⟩

@[simp] theorem declarations_append (a b : Addition) : (a ++ b).declarations = a.declarations ++ b.declarations :=
  rfl

@[simp] theorem statements_append (a b : Addition) : (a ++ b).statements = a.statements ++ b.statements := rfl

def names (a : Addition) : List String := a.declarations.map (·.symbol.name)

/-- The symbols that are bound to objects, in order. -/
def objects (a : Addition) : List Cpp.Symbol :=
  (a.declarations.filter (·.symbol.binding ≠ .inline)).map (·.symbol)

def lambdas (a : Addition) : List Declaration := a.declarations.filter (·.symbol.binding = .inline)

def bound (a : Addition) : List Cpp.Symbol := a.statements.filterMap Cpp.Statement.bound?

def uses (a : Addition) : List String := a.statements.flatMap Cpp.Statement.uses

variable (a b : Addition)

@[simp] theorem names_append : (a ++ b).names = a.names ++ b.names := List.map_append

@[simp] theorem objects_append : (a ++ b).objects = a.objects ++ b.objects := by simp [objects]

@[simp] theorem lambdas_append : (a ++ b).lambdas = a.lambdas ++ b.lambdas := by simp [lambdas]

@[simp] theorem bound_append : (a ++ b).bound = a.bound ++ b.bound := List.filterMap_append

@[simp] theorem uses_append : (a ++ b).uses = a.uses ++ b.uses := List.flatMap_append

end Addition

namespace Symbols

variable {s : Symbols} {symbol : Cpp.Symbol} {changed : Declaration}

/-- Declarations at the end. -/
def extend (s : Symbols) (declarations : List Declaration) : Symbols :=
  { s with declarations := s.declarations ++ declarations }

@[simp] theorem names_extend (ds : List Declaration) : (s.extend ds).names = s.names ++ ds.map (·.symbol.name) :=
  List.map_append

theorem find?_extend {name : String} {found : Declaration} (held : s.find? name = some found)
    (ds : List Declaration) : (s.extend ds).find? name = some found := by
  rw [find?] at held
  rw [find?, extend, List.find?_append, held, Option.some_or]

theorem replace_eq_self (other : changed.symbol.name ∉ s.names) : s.replace changed = s := by
  have unchanged : s.declarations.map (fun declaration =>
      if declaration.symbol.name == changed.symbol.name then changed else declaration) = s.declarations := by
    refine (List.map_congr_left fun declaration member => if_neg ?_).trans (List.map_id _)
    rw [beq_iff_eq]
    exact fun same => other (same ▸ List.mem_map_of_mem member)
  rw [replace, unchanged]

theorem replace_extend {last : Declaration} (free : last.symbol.name ∉ s.names)
    (same : changed.symbol.name = last.symbol.name) : (s.extend [last]).replace changed = s.extend [changed] := by
  have others := congrArg declarations (replace_eq_self (same ▸ free))
  dsimp only [replace] at others
  rw [replace, extend, extend]
  dsimp only
  rw [List.map_append, others]
  simp [same]

theorem define_add (free : symbol.name ∉ s.names) (definition : Cpp.Expr) :
    (s.add symbol).define symbol definition = .ok (s.extend [⟨symbol, some definition, s.component⟩]) := by
  have held := find?_add free symbol.name
  rw [if_pos rfl] at held
  rw [define_eq held rfl definition]
  have last : (Declaration.mk symbol none s.component).symbol.name ∉ s.names := free
  exact congrArg Except.ok (replace_extend last rfl)

end Symbols

namespace Draft

variable (d : Draft)

def plus (added : Addition) : Draft :=
  { d with symbols := d.symbols.extend added.declarations, statements := d.statements ++ added.statements }

theorem plus_append (a b : Addition) : d.plus (a ++ b) = (d.plus a).plus b := by
  simp [plus, Symbols.extend]

@[simp] theorem names_plus (added : Addition) : (d.plus added).symbols.names = d.symbols.names ++ added.names :=
  Symbols.names_extend _

end Draft

namespace Build

variable (d : Draft)

theorem apply_evaluate (e : Cpp.Expr) : (evaluate e).apply d = (.ok (), d.plus ⟨[], [.run e]⟩) := by
  have same : d.plus ⟨[], [.run e]⟩ = { d with statements := d.statements ++ [.run e] } := by
    simp [Draft.plus, Symbols.extend]
  rw [same]
  rfl

/-- A symbol that was just declared is bound. -/
theorem apply_bindAdded {symbol : Cpp.Symbol} (free : symbol.name ∉ d.symbols.names) (definition : Cpp.Expr) :
    (bind symbol definition).apply { d with symbols := d.symbols.add symbol } =
      (.ok (), d.plus ⟨[⟨symbol, some definition, d.symbols.component⟩], [.bind symbol definition]⟩) := by
  rw [bind, apply_bind, define, apply_bind, apply_ofSymbols]
  dsimp only
  rw [Symbols.define_add free]
  rfl

theorem apply_declareNew (hint : String) (type : CppType) (binding : Cpp.Binding) :
    (declare hint type binding).apply d =
      (.ok (d.symbols.declare hint type binding).1,
        { d with symbols := d.symbols.add (d.symbols.declare hint type binding).1 }) := rfl

theorem apply_bindNew (template : String) (arg : CppType) (definition : Cpp.Expr) :
    (Automation.bindNew template arg definition).apply d =
      let symbol := (d.symbols.declare (CppType.named template).nameHint (Automation.instantiate template arg)
        .pointer).1
      (.ok (.reference symbol),
        d.plus ⟨[⟨symbol, some definition, d.symbols.component⟩], [.bind symbol definition]⟩) := by
  have free := Symbols.notMem_names_declare d.symbols (CppType.named template).nameHint
    (Automation.instantiate template arg) .pointer
  rw [Automation.bindNew, apply_bind, apply_declareNew]
  dsimp only
  rw [apply_bind, apply_bindAdded d free]
  rfl

end Build

end DeviceConfig
