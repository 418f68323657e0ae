import DeviceConfig.Lambda.Compile
import DeviceConfig.Program.Basic
import DeviceConfig.Proofs.Generation.Steps
import DeviceConfig.Proofs.Program.History
import DeviceConfig.Proofs.Program.Order

/-!
Which drafts become programs, whatever operations they come from (`Draft.exists_toProgram_iff`). No operation
binds a name twice (`Draft.BindsOnce`), so the position at which a local is first bound is the one at which it
is bound.
-/

namespace DeviceConfig

namespace Build

variable {α β : Type} {holds : Draft → Prop}

/-- The step keeps the property, also when it fails. -/
def Preserves (holds : Draft → Prop) (step : Build α) : Prop :=
  ∀ draft, holds draft → holds (step.apply draft).2

theorem preserves_pure (a : α) : Preserves holds (pure a) := fun _ => id

theorem preserves_throw (e : CompileError) : Preserves holds (throw e : Build α) := fun _ => id

theorem Preserves.bind {first : Build α} {next : α → Build β} (preserves : Preserves holds first)
    (rest : ∀ a, Preserves holds (next a)) : Preserves holds (first >>= next) := by
  intro draft before
  have between := preserves draft before
  rw [apply_bind]
  rcases outcome : first.apply draft with ⟨e | a, later⟩
  · rw [outcome] at between
    exact between
  · rw [outcome] at between
    exact rest a later between

theorem preserves_get : Preserves holds get := fun _ => id

theorem preserves_ofSymbols (read : Symbols → Except CompileError α) : Preserves holds (ofSymbols read) := by
  intro draft before
  rwa [apply_ofSymbols]

theorem apply_refine (symbol : Cpp.Symbol) (type : Option CppType) (binding : Cpp.Binding) (draft : Draft) :
    ((refine symbol type binding).apply draft).2 =
      { draft with symbols := draft.symbols.after (.refine symbol type binding) } := by
  rw [refine, apply_bind, apply_ofSymbols, Symbols.after]
  cases draft.symbols.refine symbol type binding with
  | error e => rfl
  | ok result => rfl

theorem apply_define (symbol : Cpp.Symbol) (definition : Cpp.Expr) (draft : Draft) :
    ((define symbol definition).apply draft).2 =
      { draft with symbols := draft.symbols.after (.define symbol definition) } := by
  rw [define, apply_bind, apply_ofSymbols, Symbols.after]
  cases draft.symbols.define symbol definition with
  | error e => rfl
  | ok next => rfl

/-- A symbol that cannot be defined is not bound either. -/
theorem apply_bindSymbol (symbol : Cpp.Symbol) (definition : Cpp.Expr) (draft : Draft) :
    ((Build.bind symbol definition).apply draft).2 =
      match draft.symbols.define symbol definition with
      | .ok next => { draft with symbols := next, statements := draft.statements ++ [.bind symbol definition] }
      | .error _ => draft := by
  rw [Build.bind, apply_bind, define, apply_bind, apply_ofSymbols]
  cases draft.symbols.define symbol definition with
  | error e => rfl
  | ok next => rfl

end Build

namespace Draft

/-- No name is bound by two statements, and what a statement binds is defined. -/
structure BindsOnce (d : Draft) : Prop where
  differ : d.symbols.names.Nodup
  once : (boundNames d.statements).Nodup
  defined : ∀ name ∈ boundNames d.statements, d.symbols.IsDefined name

namespace BindsOnce

variable {d : Draft}

theorem start (paths : BuildFolders) : (Draft.start paths).BindsOnce :=
  ⟨List.nodup_nil, List.nodup_nil, fun _ member => nomatch member⟩

theorem after (bindsOnce : d.BindsOnce) (operation : Symbols.Operation) :
    { d with symbols := d.symbols.after operation }.BindsOnce := by
  obtain ⟨differ, once, defined⟩ := bindsOnce
  have differLater := Symbols.nodup_after differ operation
  refine ⟨differLater, once, fun name bound => ?_⟩
  exact (Symbols.keeps_after differ operation).isDefined differLater (defined name bound)

theorem append_unbound (bindsOnce : d.BindsOnce) {statement : Cpp.Statement} (unbound : statement.bound? = none) :
    { d with statements := d.statements ++ [statement] }.BindsOnce := by
  obtain ⟨differ, once, defined⟩ := bindsOnce
  have same : boundNames (d.statements ++ [statement]) = boundNames d.statements := by
    rw [boundNames_append]
    simp [boundNames, unbound]
  refine ⟨differ, ?_, ?_⟩
  · rwa [same]
  · rwa [same]

/-- The new binding is the only one of its name, since a name that is bound could not be defined again. -/
theorem bind (bindsOnce : d.BindsOnce) {symbol : Cpp.Symbol} {definition : Cpp.Expr} {next : Symbols}
    (done : d.symbols.define symbol definition = .ok next) :
    { d with symbols := next, statements := d.statements ++ [Cpp.Statement.bind symbol definition] }.BindsOnce := by
  obtain ⟨found, held, undefined, now⟩ := Symbols.find?_define done
  have later := bindsOnce.after (.define symbol definition)
  rw [Symbols.after, done] at later
  have unbound : symbol.name ∉ boundNames d.statements := by
    intro bound
    obtain ⟨_, heldToo, given⟩ := bindsOnce.defined _ bound
    cases held.symm.trans heldToo
    rw [undefined] at given
    cases given
  refine ⟨later.differ, ?_, fun name bound => ?_⟩
  · rw [boundNames_bind, ← List.concat_eq_append, List.nodup_concat]
    exact ⟨unbound, bindsOnce.once⟩
  · rw [boundNames_bind, List.mem_append, List.mem_singleton] at bound
    rcases bound with before | rfl
    · exact later.defined name before
    · exact ⟨_, now, rfl⟩

end BindsOnce

end Draft

namespace Build

open Draft

variable {α : Type}

theorem preserves_of_after {step : Build α} (operation : Symbols.Operation)
    (same : ∀ draft, (step.apply draft).2 = { draft with symbols := draft.symbols.after operation }) :
    Preserves BindsOnce step := by
  intro draft before
  rw [same]
  exact before.after _

theorem preserves_declare (hint : String) (type : CppType) (binding : Cpp.Binding) :
    Preserves BindsOnce (declare hint type binding) :=
  preserves_of_after (.declare hint type binding) fun _ => rfl

theorem preserves_declareObject (id : ObjectId) (binding : Cpp.Binding) :
    Preserves BindsOnce (declareObject id binding) :=
  preserves_of_after (.declareObject id binding) fun _ => rfl

theorem preserves_refine (symbol : Cpp.Symbol) (type : Option CppType) (binding : Cpp.Binding) :
    Preserves BindsOnce (refine symbol type binding) :=
  preserves_of_after _ (apply_refine symbol type binding)

theorem preserves_define (symbol : Cpp.Symbol) (definition : Cpp.Expr) :
    Preserves BindsOnce (define symbol definition) := preserves_of_after _ (apply_define symbol definition)

theorem preserves_bindSymbol (symbol : Cpp.Symbol) (definition : Cpp.Expr) :
    Preserves BindsOnce (Build.bind symbol definition) := by
  intro draft before
  rw [apply_bindSymbol]
  split
  · rename_i next done
    exact before.bind done
  · exact before

theorem preserves_symbolOf (id : ObjectId) (type : Option CppType) (binding : Cpp.Binding) :
    Preserves BindsOnce (symbolOf id type binding) := by
  rw [symbolOf]
  split
  · exact preserves_declare _ _ _
  · refine preserves_get.bind fun draft => ?_
    split
    · exact preserves_refine _ type binding
    · exact (preserves_declareObject id binding).bind fun symbol => preserves_refine symbol type binding
  · exact (preserves_ofSymbols _).bind fun symbol => preserves_refine symbol type binding

theorem preserves_bindLocal (id : ObjectId) (definition : Cpp.Expr) (type : Option CppType) :
    Preserves BindsOnce (bindLocal id definition type) :=
  (preserves_symbolOf id type .value).bind fun symbol =>
    (preserves_bindSymbol symbol definition).bind fun _ => preserves_pure symbol

theorem preserves_bindGlobal (id : ObjectId) (definition : Cpp.Expr) (type : Option CppType) :
    Preserves BindsOnce (bindGlobal id definition type) :=
  (preserves_symbolOf id type .pointer).bind fun symbol =>
    (preserves_bindSymbol symbol definition).bind fun _ => preserves_pure symbol

theorem preserves_writtenCode (node : Node) : Preserves BindsOnce node.writtenCode := by
  rw [Node.writtenCode]
  split
  · exact preserves_pure _
  · exact preserves_pure _
  · exact preserves_throw _

theorem preserves_declareLambda (source : String) (path : Path) (parameters : List Cpp.Parameter)
    (result : Option CppType) : Preserves BindsOnce (Lambda.declare source path parameters result) := by
  rw [Lambda.declare]
  split
  · exact preserves_throw _
  · exact (preserves_declare _ _ _).bind fun _ => preserves_pure _

theorem preserves_defineLambda (pending : Lambda.Pending) : Preserves BindsOnce pending.define :=
  (preserves_ofSymbols _).bind fun _ => (preserves_define _ _).bind fun _ => preserves_pure _

theorem preserves_lambdaAhead (node : Node) (parameters : List Cpp.Parameter) (result : Option CppType) :
    Preserves BindsOnce (node.lambdaAhead parameters result) :=
  (preserves_writtenCode node).bind fun source => preserves_declareLambda source node.path parameters result

theorem preserves_compileLambda (node : Node) (parameters : List Cpp.Parameter) (result : Option CppType) :
    Preserves BindsOnce (node.compileLambda parameters result) :=
  (preserves_writtenCode node).bind fun source =>
    (preserves_declareLambda source node.path parameters result).bind preserves_defineLambda

theorem preserves_compileTemplatable (node : Node) (parameters : List Cpp.Parameter) (result : Option CppType)
    (literal : Value → Except CompileError Cpp.Expr) :
    Preserves BindsOnce (node.compileTemplatable parameters result literal) := by
  rw [Node.compileTemplatable]
  split
  · exact preserves_compileLambda node parameters result
  · split
    · exact preserves_pure _
    · exact preserves_throw _

end Build

namespace Draft

/-- What can be done to a draft. -/
inductive Operation where
  | names (operation : Symbols.Operation)
  | enter (component : String)
  | addLibrary (library : String)
  | addFlag (flag : String)
  | addInclude (directive : String)
  | declare (hint : String) (type : CppType) (binding : Cpp.Binding)
  | declareAhead (id : ObjectId)
  | symbolOf (id : ObjectId) (type : Option CppType) (binding : Cpp.Binding)
  | object (id : ObjectId)
  | bind (symbol : Cpp.Symbol) (definition : Cpp.Expr)
  | evaluate (expression : Cpp.Expr)
  | bindLocal (id : ObjectId) (definition : Cpp.Expr) (type : Option CppType)
  | bindGlobal (id : ObjectId) (definition : Cpp.Expr) (type : Option CppType)
  | lambdaAhead (node : Node) (parameters : List Cpp.Parameter) (result : Option CppType)
  | defineLambda (pending : Lambda.Pending)
  | compileLambda (node : Node) (parameters : List Cpp.Parameter) (result : Option CppType)
  | compileTemplatable (node : Node) (parameters : List Cpp.Parameter) (result : Option CppType)
    (literal : Value → Except CompileError Cpp.Expr)

/-- The draft after an operation, also after one that fails. -/
def after (d : Draft) : Operation → Draft
  | .names operation => { d with symbols := d.symbols.after operation }
  | .enter component => ((Build.enter component).apply d).2
  | .addLibrary library => ((Build.addLibrary library).apply d).2
  | .addFlag flag => ((Build.addFlag flag).apply d).2
  | .addInclude directive => ((Build.addInclude directive).apply d).2
  | .declare hint type binding => ((Build.declare hint type binding).apply d).2
  | .declareAhead id => ((Build.declareAhead id).apply d).2
  | .symbolOf id type binding => ((Build.symbolOf id type binding).apply d).2
  | .object id => ((Build.object id).apply d).2
  | .bind symbol definition => ((Build.bind symbol definition).apply d).2
  | .evaluate expression => ((Build.evaluate expression).apply d).2
  | .bindLocal id definition type => ((Build.bindLocal id definition type).apply d).2
  | .bindGlobal id definition type => ((Build.bindGlobal id definition type).apply d).2
  | .lambdaAhead node parameters result => ((node.lambdaAhead parameters result).apply d).2
  | .defineLambda pending => (pending.define.apply d).2
  | .compileLambda node parameters result => ((node.compileLambda parameters result).apply d).2
  | .compileTemplatable node parameters result literal =>
    ((node.compileTemplatable parameters result literal).apply d).2

def afterAll (d : Draft) (operations : List Operation) : Draft := operations.foldl after d

theorem BindsOnce.after_operation {d : Draft} (bindsOnce : d.BindsOnce) (operation : Operation) :
    (d.after operation).BindsOnce := by
  cases operation with
  | names operation => exact bindsOnce.after operation
  | enter component => exact bindsOnce.after (.enter component)
  | addLibrary library => exact ⟨bindsOnce.differ, bindsOnce.once, bindsOnce.defined⟩
  | addFlag flag => exact ⟨bindsOnce.differ, bindsOnce.once, bindsOnce.defined⟩
  | addInclude directive => exact ⟨bindsOnce.differ, bindsOnce.once, bindsOnce.defined⟩
  | declare hint type binding => exact Build.preserves_declare hint type binding d bindsOnce
  | declareAhead id => exact Build.preserves_declareObject id .pointer d bindsOnce
  | symbolOf id type binding => exact Build.preserves_symbolOf id type binding d bindsOnce
  | object id => exact Build.preserves_ofSymbols _ d bindsOnce
  | bind symbol definition => exact Build.preserves_bindSymbol symbol definition d bindsOnce
  | evaluate expression => exact bindsOnce.append_unbound rfl
  | bindLocal id definition type => exact Build.preserves_bindLocal id definition type d bindsOnce
  | bindGlobal id definition type => exact Build.preserves_bindGlobal id definition type d bindsOnce
  | lambdaAhead node parameters result => exact Build.preserves_lambdaAhead node parameters result d bindsOnce
  | defineLambda pending => exact Build.preserves_defineLambda pending d bindsOnce
  | compileLambda node parameters result => exact Build.preserves_compileLambda node parameters result d bindsOnce
  | compileTemplatable node parameters result literal =>
    exact Build.preserves_compileTemplatable node parameters result literal d bindsOnce

theorem bindsOnce_afterAll {d : Draft} (bindsOnce : d.BindsOnce) (operations : List Operation) :
    (d.afterAll operations).BindsOnce := by
  induction operations generalizing d with
  | nil => exact bindsOnce
  | cons operation rest ih => exact ih (bindsOnce.after_operation operation)

theorem BindsOnce.checkOrder_eq_ok_iff {d : Draft} (bindsOnce : d.BindsOnce) :
    d.symbols.checkOrder d.statements = .ok () ↔
      ∀ i statement symbol, d.statements[i]? = some statement → d.symbols.Mentions statement symbol →
        d.symbols.IsLocal symbol.name → ∀ j, BindsAt d.statements j symbol.name → j < i := by
  rw [Symbols.checkOrder_eq_ok_iff]
  simp only [Symbols.isEarly_iff bindsOnce.once]
  constructor
  · intro onTime i statement symbol here mentions isLocal j binds
    apply Nat.lt_of_not_le
    intro late
    have involved := Symbols.exists_mentions_iff.mp ⟨symbol, mentions, rfl⟩
    exact onTime i statement here symbol.name involved ⟨isLocal, j, binds, late⟩
  · rintro earlier i statement here name involved ⟨isLocal, j, binds, late⟩
    obtain ⟨symbol, mentions, rfl⟩ := Symbols.exists_mentions_iff.mpr involved
    have before := earlier i statement symbol here mentions isLocal j binds
    omega

/-- A draft becomes a program if its statements can be written out and none of them mentions a local that this
    statement or a later one binds. The program has a text in either form; if names other than inline ones get
    their definitions by statements only, each local that a statement mentions is bound by an earlier one. -/
theorem exists_toProgram_iff (paths : BuildFolders) (operations : List Operation) (config : Node) :
    let d := (Draft.start paths).afterAll operations
    ((∃ program, d.toProgram config = .ok program) ↔
      (∀ statement ∈ d.statements, ∃ text, statement.text d.symbols = .ok text) ∧
      ∀ i statement symbol, d.statements[i]? = some statement → d.symbols.Mentions statement symbol →
        d.symbols.IsLocal symbol.name → ∀ j, BindsAt d.statements j symbol.name → j < i) ∧
    ∀ program, d.toProgram config = .ok program →
      (∀ form, ∃ text, program.output form = .ok text) ∧
      ((∀ name, d.symbols.IsDefined name → ¬d.symbols.IsInline name → name ∈ boundNames d.statements) →
        ∀ i statement symbol, d.statements[i]? = some statement → d.symbols.Mentions statement symbol →
          d.symbols.IsLocal symbol.name → ∃ j < i, BindsAt d.statements j symbol.name) := by
  intro d
  have bindsOnce : d.BindsOnce := bindsOnce_afterAll (.start paths) operations
  simp only [toProgram_eq_ok_iff, bindsOnce.checkOrder_eq_ok_iff, exists_statementTexts_iff]
  refine ⟨⟨?_, ?_⟩, ?_⟩
  · rintro ⟨_, written, onTime, -⟩
    exact ⟨written, onTime⟩
  · rintro ⟨written, onTime⟩
    exact ⟨_, written, onTime, rfl⟩
  · rintro _ ⟨written, onTime, rfl⟩
    refine ⟨Program.exists_output (exists_statementTexts_iff.mpr written), ?_⟩
    intro byStatements i statement symbol here mentions isLocal
    obtain ⟨text, read⟩ := written statement (List.mem_of_getElem? here)
    have defined := Symbols.isDefined_of_mentions read mentions
    obtain ⟨j, binds⟩ := mem_boundNames_iff.mp (byStatements symbol.name defined isLocal.not_isInline)
    exact ⟨j, onTime i statement symbol here mentions isLocal j binds, binds⟩

end Draft

end DeviceConfig
