import DeviceConfig.Proofs.Assembly.Growth

/-!
Calls that fail change nothing (`Build.failures_keep_draft`). Where a call is made of several steps, only those can
fail that come before the first change: a symbol that was readied for an object is declared and has no definition, so
that binding it succeeds. Compiling a lambda in one go is not such a call (`Build.compile_error_cases`).
-/

namespace DeviceConfig.Build

open Draft

variable {α β : Type}

/-- If the step fails, the draft stays as it was. -/
def IsAtomic (step : Build α) : Prop :=
  ∀ d e next, step.apply d = (.error e, next) → next = d

/-- The step looks at the draft, whether it fails or not. -/
def Reads (step : Build α) : Prop := ∀ d, (step.apply d).2 = d

/-- The step does not fail with this draft. -/
abbrev Succeeds (step : Build α) (d : Draft) : Prop := step.Yields d (fun _ => False) fun _ _ => True

section Rules

theorem Reads.isAtomic {step : Build α} (reads : step.Reads) : step.IsAtomic := by
  intro d e next failed
  have same := reads d
  rwa [failed] at same

theorem isAtomic_of_succeeds {step : Build α} (succeeds : ∀ d, step.Succeeds d) : step.IsAtomic := by
  intro d e next failed
  have never := succeeds d
  rw [Succeeds, Yields, failed] at never
  exact never.elim

theorem reads_pure (a : α) : (pure a : Build α).Reads := fun _ => rfl

theorem reads_throw (e : CompileError) : (throw e : Build α).Reads := fun _ => rfl

theorem reads_get : (get : Build Draft).Reads := fun _ => rfl

theorem reads_ofSymbols (read : Symbols → Except CompileError α) : (ofSymbols read).Reads := by
  intro d
  rw [apply_ofSymbols]

/-- After a look at the draft, what follows begins with the same draft. -/
theorem Reads.bind {first : Build α} {next : α → Build β} (reads : first.Reads) (rest : ∀ a, (next a).IsAtomic) :
    (first >>= next).IsAtomic := by
  intro d e last failed
  have same := reads d
  rw [apply_bind] at failed
  rcases run : first.apply d with ⟨e' | a, mid⟩
  · rw [run] at failed same
    cases failed
    exact same
  · rw [run] at failed same
    dsimp only at same failed
    subst same
    exact rest a mid e last failed

/-- Once the draft was changed, nothing fails any more. -/
theorem IsAtomic.bind {first : Build α} {next : α → Build β} (atomic : first.IsAtomic)
    (rest : ∀ d, Ensures first d fun a mid => (next a).Succeeds mid) : (first >>= next).IsAtomic := by
  intro d e last failed
  rw [apply_bind] at failed
  rcases run : first.apply d with ⟨e' | a, mid⟩
  · rw [run] at failed
    cases failed
    exact atomic d e last run
  · have never := ensures_iff.mp (rest d) a mid run
    rw [run] at failed
    dsimp only at failed
    rw [Succeeds, Yields, failed] at never
    exact never.elim

end Rules

section Names

variable {d : Draft}

theorem isAtomic_refine (symbol : Cpp.Symbol) (type : Option CppType) (binding : Cpp.Binding) :
    (refine symbol type binding).IsAtomic :=
  (reads_ofSymbols _).bind fun _ => isAtomic_of_succeeds fun _ => yields_bind (yields_setSymbols (yields_pure trivial))

theorem isAtomic_define (symbol : Cpp.Symbol) (definition : Cpp.Expr) : (define symbol definition).IsAtomic :=
  (reads_ofSymbols _).bind fun _ => isAtomic_of_succeeds fun _ => yields_setSymbols trivial

theorem isAtomic_bindSymbol (symbol : Cpp.Symbol) (definition : Cpp.Expr) :
    (Build.bind symbol definition).IsAtomic :=
  (isAtomic_define symbol definition).bind fun _ => ensures_iff.mpr fun _ _ _ => yields_modify trivial

theorem succeeds_refine {symbol : Cpp.Symbol} {component : String}
    (held : d.symbols.find? symbol.name = some ⟨symbol, none, component⟩) (type : Option CppType)
    (binding : Cpp.Binding) : (refine symbol type binding).Succeeds d :=
  yields_bind (yields_ofSymbols (Symbols.refine_eq held rfl type binding)
    (yields_bind (yields_setSymbols (yields_pure trivial))))

theorem succeeds_bindSymbol {symbol : Cpp.Symbol} {component : String}
    (held : d.symbols.find? symbol.name = some ⟨symbol, none, component⟩) (definition : Cpp.Expr) :
    (Build.bind symbol definition).Succeeds d :=
  yields_bind (yields_bind (yields_ofSymbols (Symbols.define_eq held rfl definition)
    (yields_setSymbols (yields_modify trivial))))

theorem isAtomic_declare (hint : String) (type : CppType) (binding : Cpp.Binding) :
    (declare hint type binding).IsAtomic :=
  isAtomic_of_succeeds fun d => yields_of_apply (apply_declareNew d hint type binding) trivial

/-- A name of the user's that leads nowhere gets a new symbol, which has no definition yet. -/
theorem isAtomic_declareObject_refine (id : ObjectId) (type : Option CppType) (binding : Cpp.Binding) :
    (declareObject id binding >>= fun symbol => refine symbol type binding).IsAtomic := by
  have run (d : Draft) : (declareObject id binding).apply d = (.ok (d.symbols.declareObject id binding).1,
      { d with symbols := (d.symbols.declareObject id binding).2 }) := rfl
  refine IsAtomic.bind (isAtomic_of_succeeds fun d => yields_of_apply (run d) trivial) fun d => ?_
  have free : (d.symbols.declareObject id binding).1.name ∉ d.symbols.names := by
    rw [Symbols.declareObject_fst]
    exact Symbols.notMem_names_declare _ _ _ _
  have held : (d.symbols.declareObject id binding).2.find? (d.symbols.declareObject id binding).1.name =
      some ⟨(d.symbols.declareObject id binding).1, none, d.symbols.component⟩ := by
    have added := Symbols.find?_add free (d.symbols.declareObject id binding).1.name
    rw [if_pos rfl] at added
    rw [← added, Symbols.find?, Symbols.declareObject_declarations, Symbols.declareObject_fst]
    rfl
  exact yields_of_apply (run d) (succeeds_refine held type binding)

theorem isAtomic_symbolOf (id : ObjectId) (type : Option CppType) (binding : Cpp.Binding) :
    (symbolOf id type binding).IsAtomic := by
  rw [symbolOf]
  cases id.role with
  | generated => exact isAtomic_declare id.name _ binding
  | declared =>
    refine reads_get.bind fun d => ?_
    cases d.symbols.resolve id.name with
    | ok symbol => exact isAtomic_refine symbol type binding
    | error e => exact isAtomic_declareObject_refine id type binding
  | used => exact (reads_ofSymbols _).bind fun symbol => isAtomic_refine symbol type binding

/-- Binding an object fails only where it fails to get its symbol. -/
theorem isAtomic_bindObject (id : ObjectId) (definition : Cpp.Expr) (type : Option CppType)
    (binding : Cpp.Binding) :
    (symbolOf id type binding >>= fun symbol => Build.bind symbol definition >>= fun _ => pure symbol).IsAtomic := by
  refine (isAtomic_symbolOf id type binding).bind fun d => ?_
  refine (readies_symbolOf id type binding).mono fun symbol mid readies => ?_
  obtain ⟨component, held⟩ := readies.declared
  exact (succeeds_bindSymbol held definition).bind fun _ _ _ => yields_pure trivial

end Names

section Lambdas

theorem reads_writtenCode (node : Node) : node.writtenCode.Reads := by
  rw [Node.writtenCode]
  split
  · exact reads_pure _
  · exact reads_pure _
  · exact reads_throw _

theorem isAtomic_declareLambda (source : String) (path : Path) (parameters : List Cpp.Parameter)
    (result : Option CppType) : (Lambda.declare source path parameters result).IsAtomic := by
  rw [Lambda.declare]
  cases Lambda.readAt source path parameters result with
  | error e => exact (reads_throw e).isAtomic
  | ok whole => exact (isAtomic_declare _ _ _).bind fun d =>
      yields_of_apply (apply_declareNew d _ _ _) (yields_pure trivial)

theorem isAtomic_lambdaAhead (node : Node) (parameters : List Cpp.Parameter) (result : Option CppType) :
    (node.lambdaAhead parameters result).IsAtomic :=
  (reads_writtenCode node).bind fun source => isAtomic_declareLambda source node.path parameters result

/-- All names of the body are resolved before the lambda gets its definition. -/
theorem isAtomic_defineLambda (pending : Lambda.Pending) : pending.define.IsAtomic :=
  (reads_ofSymbols _).bind fun _ => (isAtomic_define _ _).bind fun _ => ensures_iff.mpr fun _ _ _ => yields_pure trivial

/-- Compiling a lambda in one go declares its name first; a body that cannot be resolved leaves it without a
    definition. -/
theorem compile_error_cases {source : String} {path : Path} {parameters : List Cpp.Parameter}
    {result : Option CppType} {d next : Draft} {e : CompileError}
    (failed : (Lambda.compile source path parameters result).apply d = (.error e, next)) :
    next = d ∨ next = { d with symbols := (d.symbols.declare "lambda" Lambda.type .inline).2 } := by
  rw [Lambda.compile, apply_bind] at failed
  rcases run : (Lambda.declare source path parameters result).apply d with ⟨e' | pending, mid⟩
  · rw [run] at failed
    cases failed
    exact .inl (isAtomic_declareLambda source path parameters result d e next run)
  · rw [run] at failed
    dsimp only at failed
    obtain rfl := isAtomic_defineLambda pending mid e next failed
    refine .inr ?_
    cases read : Lambda.readAt source path parameters result with
    | error e' =>
      rw [Lambda.declare, read] at run
      cases run
    | ok whole =>
      obtain ⟨header, body⟩ := whole
      cases run.symm.trans (Lambda.apply_declare read d)
      rfl

end Lambdas

/-- A call that fails leaves everything as it was: the names and what they stand for, the statements, what the build
    needs. This holds with every draft, whatever identifiers and symbols the call is given. -/
theorem failures_keep_draft :
    (∀ symbol definition, (Build.bind symbol definition).IsAtomic) ∧
    (∀ id type binding, (symbolOf id type binding).IsAtomic) ∧
    (∀ id definition type, (bindLocal id definition type).IsAtomic) ∧
    (∀ id definition type, (bindGlobal id definition type).IsAtomic) ∧
    (∀ id, (object id).IsAtomic) ∧
    (∀ (node : Node) parameters result, (node.lambdaAhead parameters result).IsAtomic) ∧
    (∀ pending : Lambda.Pending, pending.define.IsAtomic) ∧
    (∀ symbol type binding, (refine symbol type binding).IsAtomic) ∧
    ∀ symbol definition, (define symbol definition).IsAtomic :=
  ⟨isAtomic_bindSymbol, isAtomic_symbolOf,
    fun id definition type => isAtomic_bindObject id definition type .value,
    fun id definition type => isAtomic_bindObject id definition type .pointer,
    fun _ => (reads_ofSymbols _).isAtomic, isAtomic_lambdaAhead, isAtomic_defineLambda, isAtomic_refine,
    isAtomic_define⟩

theorem resolve_lamp :
    Lambda.bodyStatements Lambda.relayDraft.symbols (Text.lines "id(relay).state && id(lamp).state".toList) =
    .error (.undeclared "lamp" "core" ["relay"]) := by
  cbv

/-- The second binding of a switch is refused, and a lambda is refused for the second name in its body. -/
theorem failures_keep_draft_relay :
    let id : ObjectId := .declared "relay" (.named "switch_::Switch")
    let bound := ((bindGlobal id .null none).apply Lambda.relayDraft).2
    let pending : Lambda.Pending := ⟨⟨"lambda", Lambda.type, .inline⟩, [], none, "id(relay).state && id(lamp).state"⟩
    (∃ e, (bindGlobal id .null none).apply bound = (.error e, bound)) ∧
      ∃ e, pending.define.apply Lambda.relayDraft = (.error e, Lambda.relayDraft) := by
  intro id bound pending
  obtain ⟨-, -, -, pointers, -, -, lambdas, -⟩ := failures_keep_draft
  have twice : ∃ e next, (bindGlobal id .null none).apply bound = (.error e, next) := ⟨_, _, rfl⟩
  have midway : ∃ e next, pending.define.apply Lambda.relayDraft = (.error e, next) := by
    rw [Lambda.Pending.define, apply_bind, apply_ofSymbols, resolve_lamp]
    exact ⟨_, _, rfl⟩
  obtain ⟨e, next, failed⟩ := twice
  obtain ⟨e', next', failed'⟩ := midway
  have same := pointers id .null none bound e next failed
  have same' := lambdas pending Lambda.relayDraft e' next' failed'
  rw [same] at failed
  rw [same'] at failed'
  exact ⟨⟨e, failed⟩, e', failed'⟩

end DeviceConfig.Build
