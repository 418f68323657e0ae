import DeviceConfig.Proofs.Assembly.Expressions
import DeviceConfig.Proofs.Generation.Actions
import DeviceConfig.Proofs.Schema.Code

/-!
Actions and conditions in normal form are assembled of objects over the type of their argument and of the lambdas
that stand in them (`forms_condition`, `forms_action`).
-/

namespace DeviceConfig.Automation

open Build Draft Lambda

variable {arg : CppType} {d mid next : Draft}

/-- The value becomes one object, for which the expression stands. -/
def Forms (arg : CppType) (related : Cpp.Symbol → Prop) (value : Value) (d : Draft) (e : Cpp.Expr) (next : Draft) :
    Prop :=
  ∃ symbol codes, e = .reference symbol ∧ related symbol ∧
    (value.keysDiffer = true → codes.Perm value.lambdas) ∧ Assembles arg [arg] codes [symbol] d next

/-- Each value becomes one object, in order. -/
def FormsAll (arg : CppType) (related : Value → Cpp.Symbol → Prop) (items : List Value) (d : Draft)
    (es : List Cpp.Expr) (next : Draft) : Prop :=
  ∃ symbols codes, es = symbols.map .reference ∧ List.Forall₂ related items symbols ∧
    ((∀ item ∈ items, item.keysDiffer = true) → codes.Perm (items.flatMap Value.lambdas)) ∧
    Assembles arg [arg] codes symbols d next

/-- The object is of this class template over the type of the argument. -/
def HasTemplate (template : String) (arg : CppType) (symbol : Cpp.Symbol) : Prop :=
  symbol.type = instantiate template arg

/-- The condition that stands in the value became this object. -/
def IsCondition (arg : CppType) (value : Value) (symbol : Cpp.Symbol) : Prop :=
  ∃ kind config, value = .map [(ConditionKind.key kind, config)] ∧ HasTemplate kind.template arg symbol

/-- The action that stands in the value became this object. -/
def IsAction (arg : CppType) (value : Value) (symbol : Cpp.Symbol) : Prop :=
  ∃ kind config, value = .map [(ActionKind.key kind, config)] ∧ HasTemplate kind.template arg symbol

theorem formsAll_nil {related : Value → Cpp.Symbol → Prop} : FormsAll arg related [] d [] d :=
  ⟨[], [], rfl, .nil, fun _ => .refl _, .refl⟩

theorem ensures_cons {related : Value → Cpp.Symbol → Prop} {item : Value} {items : List Value}
    {first : Build Cpp.Expr} {rest : Build (List Cpp.Expr)}
    (head : Ensures first d (Forms arg (related item) item d))
    (tail : ∀ next, Ensures rest next (FormsAll arg related items next)) :
    Ensures (do
      let e ← first
      let es ← rest
      return e :: es) d (FormsAll arg related (item :: items) d) := by
  refine head.bind fun e mid ⟨symbol, codes, same, fits, code, made⟩ => ?_
  refine (tail mid).bind fun es next ⟨symbols, others, sameToo, fitsToo, codeToo, madeToo⟩ => yields_pure ?_
  refine ⟨symbol :: symbols, codes ++ others, by rw [same, sameToo]; rfl, .cons fits fitsToo, fun differ => ?_,
    made.trans madeToo⟩
  rw [List.flatMap_cons]
  exact (code (differ item List.mem_cons_self)).append
    (codeToo fun other member => differ other (List.mem_cons_of_mem _ member))

theorem ensures_compileLambda {path : Path} {code : String} {parameters : List Cpp.Parameter}
    {result : Option CppType} (known : ∀ type ∈ result, type.Known) :
    Ensures ((⟨path, .lambda code⟩ : Node).compileLambda parameters result) d fun e next => ∃ declaration,
      declaration.symbol.name ∉ d.symbols.names ∧
        IsLambda d.symbols.aliases (parameters.map (·.type)) code declaration ∧
        e = .reference declaration.symbol ∧ next = d.plus ⟨[declaration], []⟩ :=
  Lambda.ensures_compile known

theorem known_of_result {type : CppType} (known : type.name ∈ CppType.vocabulary) (plain : type.args = []) :
    ∀ other ∈ some type, other.Known := by
  intro other member
  obtain rfl := Option.mem_some_iff.mp member
  obtain ⟨name, args, isPointer⟩ := type
  cases plain
  exact CppType.known_mk known fun _ member => nomatch member

/-- The expression for a lambda that was just compiled. -/
theorem fits_lambda {declaration : Declaration} :
    (d.plus ⟨[declaration], []⟩).Fits arg (.reference declaration.symbol) :=
  fits_reference (knows_of_mem List.mem_cons_self)

theorem forms_delay {path : Path} {value : Value} (normal : Schema.Normal (.templatable .duration) value) :
    Ensures (delay arg ⟨path, value⟩) d (Forms arg (HasTemplate "DelayAction" arg) value d) := by
  have listed : "DelayAction" ∈ templates := by decide
  have object : d.Fits arg (register (.allocate (instantiate "DelayAction" arg) [])) :=
    fits_call (fits_of_nil rfl rfl rfl)
      (fits_single (fits_allocate (known_instantiate listed) fun _ member => nomatch member))
  refine (ensures_bindNew [arg] listed object).bind fun action mid ⟨symbol, same, typed, adds⟩ => ?_
  subst same
  have made : Assembles arg [arg] [] [symbol] d mid := adds.assembles fun _ => rfl
  obtain ⟨knows, pointer⟩ := made.objects symbol List.mem_cons_self
  rcases normal.templated with ⟨code, rfl⟩ | own
  · have known : ∀ type ∈ some CppType.uint32, type.Known := known_of_result (by decide) rfl
    refine (ensures_compileLambda known).bind fun e later ⟨declaration, free, lambda, same, whole⟩ => ?_
    subst same whole
    have call : (mid.plus ⟨[declaration], []⟩).Fits arg
        ((Cpp.Expr.reference symbol).call "set_delay" [.reference declaration.symbol]) :=
      fits_call (fits_reference (knows.plus _)) (fits_single fits_lambda)
    refine (ensures_evaluate [arg] call).bind fun _ last added => yields_pure ?_
    have used := Cpp.uses_call_inline "set_delay" (Cpp.uses_pointer pointer) lambda.inline
    exact ⟨symbol, [code], rfl, typed, fun _ => .refl _, made.trans (added.afterLambda free lambda fun _ => used)⟩
  · obtain ⟨time, rfl⟩ := own.exists_duration
    let literal : Cpp.Expr := .int (Int64.ofNat (time.nanoseconds / millisecond))
    have call : mid.Fits arg ((Cpp.Expr.reference symbol).call "set_delay" [literal]) :=
      fits_call (fits_reference knows) (fits_single (fits_of_nil rfl rfl rfl))
    have period : Ensures ((⟨path, .duration time⟩ : Node).compileTemplatable (parameters arg) (some .uint32)
        (delayLiteral path)) mid fun e next => e = literal ∧ next = mid := yields_pure ⟨rfl, rfl⟩
    refine period.bind fun e later ⟨same, stays⟩ => ?_
    subst same stays
    refine (ensures_evaluate [arg] call).bind fun _ last added => yields_pure ?_
    have none : ((Cpp.Expr.reference symbol).call "set_delay" [literal]).uses = [] := by
      rw [Cpp.Expr.call, Cpp.uses_method, Cpp.uses_pointer pointer]
      rfl
    exact ⟨symbol, [], rfl, typed, fun _ => .refl _, made.trans (added.assembles fun _ => none)⟩

theorem forms_lambdaObject {template : String} (listed : template ∈ templates) {path : Path} {value : Value}
    (normal : Schema.Normal .lambda value) {result : Option CppType} (known : ∀ type ∈ result, type.Known) :
    Ensures (do
      let code ← (⟨path, value⟩ : Node).compileLambda (parameters arg) result
      bindNew template arg (.allocate (instantiate template arg) [code])) d
      (Forms arg (HasTemplate template arg) value d) := by
  obtain ⟨code, rfl⟩ := normal.exists_lambda
  refine (ensures_compileLambda known).bind fun e later ⟨declaration, free, lambda, same, whole⟩ => ?_
  subst same whole
  have object : (d.plus ⟨[declaration], []⟩).Fits arg
      (.allocate (instantiate template arg) [.reference declaration.symbol]) :=
    fits_allocate (known_instantiate listed) (fits_single fits_lambda)
  refine (ensures_bindNew [arg] listed object).mono fun e last ⟨symbol, same, typed, adds⟩ => ?_
  have used := Cpp.uses_allocate_inline (instantiate template arg) lambda.inline
  exact ⟨symbol, [code], same, typed, fun _ => .refl _, adds.afterLambda free lambda fun _ => used⟩

/-- The object that a name of the configuration leads to. -/
theorem ensures_object (arg : CppType) (id : ObjectId) :
    Ensures (object id) d fun e next => next = d ∧ d.Fits arg e ∧ (d.Clear → e.uses = []) := by
  refine ensures_iff.mpr fun e next run => ?_
  rw [object, apply_ofSymbols] at run
  obtain ⟨read, rfl⟩ := Prod.mk.inj run
  obtain ⟨symbol, resolved, written⟩ := bind_eq_ok_iff.mp read
  obtain ⟨found, declared, same⟩ := bind_eq_ok_iff.mp written
  cases same
  rw [Symbols.declaration] at declared
  split at declared
  · rename_i held
    cases declared
    refine ⟨rfl, fits_reference (knows_of_find? held), fun clear => ?_⟩
    obtain ⟨other, heldToo, pointer⟩ := clear id.name symbol.name (name_of_resolve resolved)
    cases held.symm.trans heldToo
    exact Cpp.uses_pointer pointer
  · cases declared

theorem ensures_target (arg : CppType) (node : Node) :
    Ensures (Switch.target node) d fun e next => next = d ∧ d.Fits arg e ∧ (d.Clear → e.uses = []) := by
  rw [Switch.target]
  cases node.id? "id" with
  | none => exact yields_throw trivial
  | some id => exact ensures_object arg id

theorem lambdas_reference {value : Value} (normal : Schema.Normal Switch.referenceSchema value) :
    value.lambdas = [] := by
  exact normal.of_withSimpleId.lambdas_eq_nil rfl rfl

theorem forms_stateAction {template factory : String} (listed : template ∈ templates) {path : Path} {value : Value}
    (normal : Schema.Normal Switch.referenceSchema value) :
    Ensures (Switch.stateAction template factory arg ⟨path, value⟩) d
      (Forms arg (HasTemplate template arg) value d) := by
  refine (ensures_target arg _).bind fun object mid ⟨same, fits, clear⟩ => ?_
  subst same
  have method : mid.Fits arg (object.method factory [arg] []) :=
    fits_method fits (fun known type member => List.mem_singleton.mp member ▸ known) fun _ member => nomatch member
  refine (ensures_bindNew [arg] listed method).mono fun e next ⟨symbol, same, typed, adds⟩ => ?_
  refine ⟨symbol, [], same, typed, fun _ => by rw [lambdas_reference normal], adds.assembles fun free => ?_⟩
  rw [Cpp.uses_method, clear free]
  rfl

theorem forms_stateCondition {on : Bool} {path : Path} {value : Value}
    (normal : Schema.Normal Switch.referenceSchema value) :
    Ensures (Switch.stateCondition on arg ⟨path, value⟩) d
      (Forms arg (HasTemplate "switch_::SwitchCondition" arg) value d) := by
  have listed : "switch_::SwitchCondition" ∈ templates := by decide
  refine (ensures_target arg _).bind fun object mid ⟨same, fits, clear⟩ => ?_
  subst same
  have made : mid.Fits arg (.allocate (instantiate "switch_::SwitchCondition" arg) [object, .bool on]) := by
    refine fits_allocate (known_instantiate listed) fun part member => ?_
    rcases List.mem_cons.mp member with rfl | last
    · exact fits
    · rw [List.mem_singleton.mp last]
      exact fits_of_nil rfl rfl rfl
  refine (ensures_bindNew [arg] listed made).mono fun e next ⟨symbol, same, typed, adds⟩ => ?_
  refine ⟨symbol, [], same, typed, fun _ => by rw [lambdas_reference normal], adds.assembles fun free => ?_⟩
  rw [Cpp.uses_allocate, List.flatMap_cons, clear free]
  rfl

/-- Objects become one. -/
theorem ensures_combination {template : String} (listed : template ∈ templates) {parts : List Cpp.Symbol}
    (objects : ∀ symbol ∈ parts, d.Knows symbol ∧ symbol.binding = .pointer) :
    Ensures (combination template arg (parts.map .reference)) d fun e next => ∃ symbol, e = .reference symbol ∧
      HasTemplate template arg symbol ∧ Assembles arg [arg] [] [symbol] d next := by
  have made : d.Fits arg (.allocate (instantiate template arg) [.aggregate (parts.map .reference)]) :=
    fits_allocate (known_instantiate listed)
      (fits_single (fits_symbols fun symbol member => (objects symbol member).1))
  refine (ensures_bindNew [arg] listed made).mono fun e next ⟨symbol, same, typed, adds⟩ => ?_
  refine ⟨symbol, same, typed, adds.assembles fun _ => ?_⟩
  rw [Cpp.uses_allocate, List.flatMap_singleton, Cpp.uses_symbols fun symbol member => (objects symbol member).2]

theorem ensures_addActions (arg : CppType) {object : Cpp.Expr} {method : String} {parts : List Cpp.Symbol}
    (fits : d.Fits arg object) (unused : object.uses = [])
    (objects : ∀ symbol ∈ parts, d.Knows symbol ∧ symbol.binding = .pointer) :
    Ensures (addActions object method (parts.map .reference)) d fun _ next =>
      Assembles arg [arg] [] [] d next := by
  rw [addActions]
  split
  · exact yields_pure .refl
  · have call : d.Fits arg (object.call method [.aggregate (parts.map .reference)]) :=
      fits_call fits (fits_single (fits_symbols fun symbol member => (objects symbol member).1))
    refine (ensures_evaluate [arg] call).mono fun _ next adds => adds.assembles fun _ => ?_
    rw [Cpp.Expr.call, Cpp.uses_method, unused, List.flatMap_singleton,
      Cpp.uses_symbols fun symbol member => (objects symbol member).2]
    rfl

section Conditions

theorem Forms.under {related other : Cpp.Symbol → Prop} {key : String} {config : Value} {e : Cpp.Expr}
    (forms : Forms arg related config d e next) (weaker : ∀ symbol, related symbol → other symbol) :
    Forms arg other (.map [(key, config)]) d e next := by
  obtain ⟨symbol, codes, same, fits, code, made⟩ := forms
  refine ⟨symbol, codes, same, weaker symbol fits, fun differ => ?_, made⟩
  rw [Value.lambdas_map, List.flatMap_singleton]
  exact code ((Value.keysDiffer_map.mp differ).2 _ (List.mem_singleton_self _))

theorem forms_combination {related : Value → Cpp.Symbol → Prop} {template : String} (listed : template ∈ templates)
    {items : List Value} {first : Build (List Cpp.Expr)}
    (parts : Ensures first d (FormsAll arg related items d)) :
    Ensures (do
      let es ← first
      combination template arg es) d (Forms arg (HasTemplate template arg) (.list items) d) := by
  refine parts.bind fun es mid ⟨symbols, codes, same, _, code, made⟩ => ?_
  subst same
  refine (ensures_combination listed made.objects).mono fun e next ⟨symbol, same, typed, more⟩ => ?_
  have whole := (made.trans more).sublist (List.sublist_append_right symbols [symbol])
  rw [List.append_nil] at whole
  refine ⟨symbol, codes, same, typed, fun differ => ?_, whole⟩
  rw [Value.lambdas_list]
  exact code (Value.keysDiffer_list.mp differ)

theorem formsAll_conditions {items : List Value}
    (each : ∀ item ∈ items, ∀ (path : Path) (d : Draft),
      Ensures (condition arg path item) d (Forms arg (IsCondition arg item) item d)) (path : Path) :
    Ensures (conditions arg path (.list items)) d (FormsAll arg (IsCondition arg) items d) := by
  rw [conditions]
  generalize 0 = position
  induction items generalizing position d with
  | nil => exact yields_pure formsAll_nil
  | cons item rest ih =>
    refine ensures_cons (each item List.mem_cons_self _ d) fun next => ?_
    exact ih (fun other member => each other (List.mem_cons_of_mem _ member)) (position + 1)

theorem forms_condition (value : Value) :
    (Schema.Normal (.recursive .condition) value → ∀ (path : Path) (d : Draft),
      Ensures (condition arg path value) d (Forms arg (IsCondition arg value) value d)) ∧
    (Schema.Normal Schema.conditions value → ∀ (path : Path) (d : Draft), ∃ items, value = .list items ∧
      Ensures (conditions arg path value) d (FormsAll arg (IsCondition arg) items d)) := by
  -- a list holds conditions, and a condition holds a list or no condition at all
  induction value using Value.induct with
  | list items each =>
    refine ⟨fun normal => ?_, fun normal path d => ⟨items, rfl, ?_⟩⟩
    · obtain ⟨kind, config, same, -⟩ := exists_conditionKind normal
      cases same
    · obtain ⟨others, same, normals⟩ := normal.exists_list
      cases same
      exact formsAll_conditions (fun item member => (each item member).1 (normals item member)) path
  | map entries each =>
    refine ⟨fun normal path d => ?_, fun normal => ?_⟩
    · obtain ⟨kind, config, same, named, own⟩ := exists_conditionKind normal
      cases same
      have deeper := (each _ (List.mem_singleton_self (kind.key, config))).2
      have found : ∀ symbol, HasTemplate kind.template arg symbol →
          IsCondition arg (.map [(kind.key, config)]) symbol := fun _ typed => ⟨kind, config, rfl, typed⟩
      simp only [condition, named]
      cases kind with
      | every =>
        obtain ⟨items, rfl, parts⟩ := deeper own (path.key "and") d
        exact (forms_combination (by decide) parts).mono fun _ _ forms => forms.under found
      | either =>
        obtain ⟨items, rfl, parts⟩ := deeper own (path.key "or") d
        exact (forms_combination (by decide) parts).mono fun _ _ forms => forms.under found
      | lambda =>
        have known := known_of_result (by decide : CppType.bool.name ∈ CppType.vocabulary) rfl
        exact (forms_lambdaObject (by decide) own known).mono fun _ _ forms => forms.under found
      | isOn => exact (forms_stateCondition own).mono fun _ _ forms => forms.under found
      | isOff => exact (forms_stateCondition own).mono fun _ _ forms => forms.under found
    · obtain ⟨others, same, -⟩ := normal.exists_list
      cases same
  | scalar value scalar =>
    refine ⟨fun normal => ?_, fun normal => ?_⟩
    · obtain ⟨kind, config, same, -⟩ := exists_conditionKind normal
      rw [same] at scalar
      cases scalar
    · obtain ⟨others, same, -⟩ := normal.exists_list
      rw [same] at scalar
      cases scalar

end Conditions

section Actions

/-- What stands under the key of a mapping becomes objects, in order. -/
def FormsUnder (arg : CppType) (key : String) (entries : Entries Value) (d : Draft) (es : List Cpp.Expr)
    (next : Draft) : Prop :=
  ∃ symbols codes, es = symbols.map .reference ∧
    ((Value.map entries).keysDiffer = true → codes.Perm (codeUnder entries key)) ∧
    Assembles arg [arg] codes symbols d next

theorem formsUnder_of_present {related : Value → Cpp.Symbol → Prop} {key : String} {entries : Entries Value}
    {items : List Value} (present : Entries.get? key entries = some (.list items)) {es : List Cpp.Expr}
    (forms : FormsAll arg related items d es next) : FormsUnder arg key entries d es next := by
  obtain ⟨symbols, codes, same, _, code, made⟩ := forms
  refine ⟨symbols, codes, same, fun differ => ?_, made⟩
  rw [codeUnder, gatherUnder_of_present present, Value.lambdas_list]
  exact code (Value.keysDiffer_list.mp ((Value.keysDiffer_map.mp differ).2 _ (Entries.mem_of_get? present)))

theorem formsUnder_of_absent {key : String} {entries : Entries Value} (absent : Entries.get? key entries = none) :
    FormsUnder arg key entries d [] d :=
  ⟨[], [], rfl, fun _ => by rw [codeUnder, gatherUnder_of_absent absent], .refl⟩

theorem formsUnder_conditions {key : String} {path : Path} {entries : Entries Value}
    (normal : ∀ value, Entries.get? key entries = some value → Schema.Normal Schema.conditions value) :
    Ensures (conditionsUnder key arg path entries) d (FormsUnder arg key entries d) := by
  rw [conditionsUnder]
  cases present : Entries.get? key entries with
  | none => exact yields_pure (formsUnder_of_absent present)
  | some value =>
    obtain ⟨items, rfl, forms⟩ := (forms_condition value).2 (normal value present) (path.key key) d
    exact forms.mono fun _ _ => formsUnder_of_present present

theorem formsUnder_actions {related : Value → Cpp.Symbol → Prop} {key : String} {path : Path}
    {entries : Entries Value}
    (each : ∀ value, Entries.get? key entries = some value → ∀ (path : Path) (d : Draft), ∃ items,
      value = .list items ∧ Ensures (actions arg path value) d (FormsAll arg related items d)) :
    Ensures (actionsUnder key arg path entries) d (FormsUnder arg key entries d) := by
  rw [actionsUnder_eq]
  cases present : Entries.get? key entries with
  | none => exact yields_pure (formsUnder_of_absent present)
  | some value =>
    obtain ⟨items, rfl, forms⟩ := each value present (path.key key) d
    exact forms.mono fun _ _ => formsUnder_of_present present

theorem forms_branch {related : Value → Cpp.Symbol → Prop} {path : Path} {entries : Entries Value}
    (normal : Schema.Normal (.fields Schema.ifFields) (.map entries))
    (each : ∀ key value, Entries.get? key entries = some value → Schema.Normal Schema.actions value →
      ∀ (path : Path) (d : Draft), ∃ items, value = .list items ∧
        Ensures (actions arg path value) d (FormsAll arg related items d)) :
    Ensures (branch arg path (.map entries)) d (Forms arg (HasTemplate "IfAction" arg) (.map entries) d) := by
  have condition : FieldSet.find? "condition" Schema.ifFields.fields =
      some ⟨"condition", .required, Schema.conditions⟩ := rfl
  have yes : FieldSet.find? "then" Schema.ifFields.fields =
      some ⟨"then", .optional, Schema.actions⟩ := rfl
  have no : FieldSet.find? "else" Schema.ifFields.fields =
      some ⟨"else", .optional, Schema.actions⟩ := rfl
  rw [branch]
  refine (formsUnder_conditions fun value present => normal.entry condition present).bind
    fun _ first result => ?_
  obtain ⟨parts, codes, rfl, code, made⟩ := result
  refine (ensures_combination (by decide) made.objects).bind fun _ second result => ?_
  obtain ⟨symbol, rfl, typed, more⟩ := result
  obtain ⟨knows, pointer⟩ := more.objects symbol List.mem_cons_self
  refine (formsUnder_actions fun value present => each _ value present (normal.entry yes present)).bind
    fun _ third result => ?_
  obtain ⟨actions, yesCodes, rfl, yesCode, madeYes⟩ := result
  have unused := Cpp.uses_pointer pointer
  have usable : third.Fits arg (.reference symbol) := fits_reference (madeYes.knows knows)
  refine (ensures_addActions arg usable unused madeYes.objects).bind fun _ fourth added => ?_
  refine (formsUnder_actions fun value present => each _ value present (normal.entry no present)).bind
    fun _ fifth result => ?_
  obtain ⟨others, noCodes, rfl, noCode, madeNo⟩ := result
  have still : fifth.Fits arg (.reference symbol) :=
    fits_reference (madeNo.knows (added.knows (madeYes.knows knows)))
  refine (ensures_addActions arg still unused madeNo.objects).bind fun _ last addedToo => yields_pure ?_
  have whole := ((((made.trans more).trans madeYes).trans added).trans madeNo).trans addedToo
  simp only [List.append_nil] at whole
  have only : [symbol].Sublist (parts ++ [symbol] ++ actions ++ others) :=
    (((List.sublist_append_right parts [symbol]).trans (List.sublist_append_left _ actions)).trans
      (List.sublist_append_left _ others))
  refine ⟨symbol, codes ++ yesCodes ++ noCodes, rfl, typed, fun differ => ?_, whole.sublist only⟩
  have keys : Schema.ifFields.codeKeys = ["condition", "then", "else"] := rfl
  have perm := normal.lambdas_perm (Value.keysDiffer_map.mp differ).1 (by decide) rfl
  rw [keys] at perm
  refine List.Perm.trans ?_ perm.symm
  simpa using ((code differ).append (yesCode differ)).append (noCode differ)

theorem formsAll_actions {items : List Value}
    (each : ∀ item ∈ items, ∀ (path : Path) (d : Draft),
      Ensures (action arg path item) d (Forms arg (IsAction arg item) item d)) (path : Path) :
    Ensures (actions arg path (.list items)) d (FormsAll arg (IsAction arg) items d) := by
  rw [actions]
  generalize 0 = position
  induction items generalizing position d with
  | nil => exact yields_pure formsAll_nil
  | cons item rest ih =>
    refine ensures_cons (each item List.mem_cons_self _ d) fun next => ?_
    exact ih (fun other member => each other (List.mem_cons_of_mem _ member)) (position + 1)

/-- An action becomes one object over the type of the argument, at any depth of actions inside actions. -/
theorem forms_action (value : Value) :
    (Schema.Normal (.recursive .action) value → ∀ (path : Path) (d : Draft),
      Ensures (action arg path value) d (Forms arg (IsAction arg value) value d)) ∧
    (Schema.Normal Schema.actions value → ∀ (path : Path) (d : Draft), ∃ items, value = .list items ∧
      Ensures (actions arg path value) d (FormsAll arg (IsAction arg) items d)) ∧
    (Schema.Normal (.fields Schema.ifFields) value → ∀ (path : Path) (d : Draft),
      Ensures (branch arg path value) d (Forms arg (HasTemplate "IfAction" arg) value d)) := by
  -- a branch holds lists of actions, and a list holds actions, some of which hold a branch
  induction value using Value.induct with
  | list items each =>
    refine ⟨fun normal => ?_, fun normal path d => ⟨items, rfl, ?_⟩, fun normal => ?_⟩
    · obtain ⟨kind, config, same, -⟩ := exists_actionKind normal
      cases same
    · obtain ⟨others, same, normals⟩ := normal.exists_list
      cases same
      exact formsAll_actions (fun item member => (each item member).1 (normals item member)) path
    · obtain ⟨entries, same⟩ := normal.exists_map
      cases same
  | map entries each =>
    refine ⟨fun normal path d => ?_, fun normal => ?_, fun normal path d => ?_⟩
    · obtain ⟨kind, config, same, named, own⟩ := exists_actionKind normal
      cases same
      have deeper := (each _ (List.mem_singleton_self (kind.key, config))).2.2
      have found : ∀ symbol, HasTemplate kind.template arg symbol →
          IsAction arg (.map [(kind.key, config)]) symbol := fun _ typed => ⟨kind, config, rfl, typed⟩
      simp only [action, named]
      cases kind with
      | delay => exact (forms_delay own).mono fun _ _ forms => forms.under found
      | lambda =>
        have known := known_of_result (by decide : CppType.void.name ∈ CppType.vocabulary) rfl
        exact (forms_lambdaObject (by decide) own known).mono fun _ _ forms => forms.under found
      | branch => exact (deeper own _ d).mono fun _ _ forms => forms.under found
      | turnOn => exact (forms_stateAction (by decide) own).mono fun _ _ forms => forms.under found
      | turnOff => exact (forms_stateAction (by decide) own).mono fun _ _ forms => forms.under found
      | toggle => exact (forms_stateAction (by decide) own).mono fun _ _ forms => forms.under found
    · obtain ⟨others, same, -⟩ := normal.exists_list
      cases same
    · exact forms_branch normal fun key value present own =>
        (each _ (Entries.mem_of_get? present)).2.1 own
  | scalar value scalar =>
    refine ⟨fun normal => ?_, fun normal => ?_, fun normal => ?_⟩
    · obtain ⟨kind, config, same, -⟩ := exists_actionKind normal
      rw [same] at scalar
      cases scalar
    · obtain ⟨others, same, -⟩ := normal.exists_list
      rw [same] at scalar
      cases scalar
    · obtain ⟨entries, same⟩ := normal.exists_map
      rw [same] at scalar
      cases scalar

end Actions

end DeviceConfig.Automation
