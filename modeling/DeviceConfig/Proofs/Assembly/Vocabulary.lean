import DeviceConfig.Proofs.Assembly.Growth

/-!
The methods that the statements of automations call. Whatever the actions are, they are a few (`Automation.vocabulary`),
and they are called on what the steps before gave, which is a name each time.
-/

namespace DeviceConfig

namespace Cpp

mutual

/-- The methods that an expression calls, in the order of the text. What its names stand for is left out. -/
def Expr.methods : Expr → List String
  | .literal _ => []
  | .reference _ => []
  | .member receiver _ => receiver.methods
  | .method receiver name _ args => receiver.methods ++ name :: argMethods args
  | .function _ args => argMethods args
  | .construct _ args => argMethods args
  | .allocate _ args => argMethods args
  | .aggregate items => argMethods items
  | .lambda _ _ _ body => bodyMethods body
  | .concat parts => argMethods parts
  | .raw _ => []

def argMethods : List Expr → List String
  | [] => []
  | arg :: rest => arg.methods ++ argMethods rest

def Statement.methods : Statement → List String
  | .line text => text.methods
  | .run expression => expression.methods
  | .bind _ definition => definition.methods

def bodyMethods : List Statement → List String
  | [] => []
  | statement :: rest => statement.methods ++ bodyMethods rest

end

/-- The expressions call no methods. -/
def ArePlain (es : List Expr) : Prop := ∀ e ∈ es, e.methods = []

theorem arePlain_nil : ArePlain [] := List.forall_mem_nil _

theorem arePlain_cons {e : Expr} {es : List Expr} (first : e.methods = []) (others : ArePlain es) :
    ArePlain (e :: es) :=
  List.forall_mem_cons.mpr ⟨first, others⟩

theorem arePlain_single {e : Expr} (plain : e.methods = []) : ArePlain [e] := arePlain_cons plain arePlain_nil

theorem ArePlain.head {e : Expr} {es : List Expr} (plain : ArePlain (e :: es)) : e.methods = [] :=
  plain e List.mem_cons_self

theorem argMethods_eq_nil {args : List Expr} (plain : ArePlain args) : argMethods args = [] := by
  induction args with
  | nil => rfl
  | cons arg rest ih =>
    rw [argMethods, plain arg List.mem_cons_self, ih fun other member => plain other (List.mem_cons_of_mem _ member)]
    rfl

theorem methods_call {receiver : Expr} {args : List Expr} (name : String) (plain : receiver.methods = [])
    (each : ArePlain args) : (receiver.call name args).methods = [name] := by
  rw [Expr.call, Expr.methods, plain, argMethods_eq_nil each]
  rfl

end Cpp

/-- The items of the list under a key. -/
def Node.itemsUnder (node : Node) (key : String) : List Node := ((node.get? key).map Node.items).getD []

namespace Automation

open Build Cpp

/-- The methods that actions, and the conditions among them, are made with. -/
def vocabulary : List String :=
  ["register_component", "set_delay", "make_turn_on_action", "make_turn_off_action", "make_toggle_action", "add_then",
    "add_else", "add_actions"]

/-- The statements call no other methods. -/
def Spoken (statements : List Statement) : Prop :=
  ∀ statement ∈ statements, ∀ method ∈ statement.methods, method ∈ vocabulary

theorem spoken_nil : Spoken [] := List.forall_mem_nil _

theorem spoken_single {statement : Statement} (known : ∀ method ∈ statement.methods, method ∈ vocabulary) :
    Spoken [statement] := by
  intro other member
  rwa [List.mem_singleton.mp member]

theorem Spoken.append {before after : List Statement} (spoken : Spoken before) (spokenToo : Spoken after) :
    Spoken (before ++ after) :=
  fun statement member => (List.mem_append.mp member).elim (spoken statement) (spokenToo statement)

/-- The step appends statements of the vocabulary, and these parts of its result call no methods. -/
def Speaks {α : Type} (parts : α → List Expr) (step : Build α) : Prop :=
  step.Appends fun a added => ArePlain (parts a) ∧ Spoken added

variable {α β : Type} {parts : α → List Expr} {others : β → List Expr}

section Steps

theorem speaks_pure {a : α} (plain : ArePlain (parts a)) : Speaks parts (pure a) :=
  appends_pure ⟨plain, spoken_nil⟩

theorem speaks_throw (e : CompileError) : Speaks parts (throw e : Build α) := appends_throw e

theorem Speaks.bind {first : Build α} {next : α → Build β} (speaks : Speaks parts first)
    (rest : ∀ a, ArePlain (parts a) → Speaks others (next a)) : Speaks others (first >>= next) := by
  refine Appends.bind speaks fun a added result => ?_
  obtain ⟨plain, spoken⟩ := result
  exact (rest a plain).mono fun b more last => ⟨last.1, spoken.append last.2⟩

theorem speaks_of_nil {step : Build α} (appends : step.Appends fun _ added => added = []) :
    Speaks (fun _ => []) step :=
  appends.mono fun _ _ none => none ▸ ⟨arePlain_nil, spoken_nil⟩

theorem speaks_evaluate {e : Expr} (known : ∀ method ∈ e.methods, method ∈ vocabulary) :
    Speaks (fun _ => []) (evaluate e) :=
  (appends_evaluate e).mono fun _ _ only => only ▸ ⟨arePlain_nil, spoken_single known⟩

theorem speaks_bindNew (template : String) (arg : CppType) {definition : Expr}
    (known : ∀ method ∈ definition.methods, method ∈ vocabulary) :
    Speaks ([·]) (bindNew template arg definition) := by
  refine (appends_bindNew template arg definition).mono fun e added result => ?_
  obtain ⟨symbol, rfl, rfl⟩ := result
  exact ⟨arePlain_single rfl, spoken_single known⟩

theorem speaks_object (id : ObjectId) : Speaks ([·]) (object id) := by
  refine (appends_ofSymbols _).mono fun e added result => ?_
  obtain ⟨rfl, s, read⟩ := result
  obtain ⟨symbol, -, written⟩ := bind_eq_ok_iff.mp read
  obtain ⟨found, -, same⟩ := bind_eq_ok_iff.mp written
  cases same
  exact ⟨arePlain_single rfl, spoken_nil⟩

end Steps

section Lambdas

variable (node : Node) (parameters : List Parameter) (result : Option CppType)

theorem appends_writtenCode : node.writtenCode.Appends fun _ added => added = [] := by
  unfold Node.writtenCode
  split
  · exact appends_pure rfl
  · exact appends_pure rfl
  · exact appends_throw _

theorem appends_declareLambda (source : String) (path : Path) :
    (Lambda.declare source path parameters result).Appends fun _ added => added = [] := by
  unfold Lambda.declare
  split
  · exact appends_throw _
  · refine (appends_declare _ _ _).bind fun symbol added none => ?_
    subst none
    exact appends_pure rfl

theorem appends_lambdaAhead : (node.lambdaAhead parameters result).Appends fun _ added => added = [] := by
  refine (appends_writtenCode node).bind fun source _ none => ?_
  subst none
  exact appends_declareLambda parameters result source node.path

theorem appends_defineLambda (pending : Lambda.Pending) :
    pending.define.Appends fun e added => e = pending.reference ∧ added = [] := by
  refine (appends_ofSymbols _).bind fun body added result => ?_
  obtain ⟨rfl, -⟩ := result
  refine (appends_define _ _).bind fun _ added none => ?_
  subst none
  exact appends_pure ⟨rfl, rfl⟩

theorem speaks_compileLambda : Speaks ([·]) (node.compileLambda parameters result) := by
  have ahead := speaks_of_nil (appends_lambdaAhead node parameters result)
  have whole : node.compileLambda parameters result = node.lambdaAhead parameters result >>= (·.define) := by
    rw [Node.lambdaAhead, bind_assoc]
    rfl
  rw [whole]
  refine ahead.bind fun pending _ => ?_
  refine (appends_defineLambda pending).mono fun e added both => ?_
  obtain ⟨rfl, rfl⟩ := both
  exact ⟨arePlain_single rfl, spoken_nil⟩

theorem speaks_compileTemplatable {literal : Value → Except CompileError Expr}
    (plain : ∀ value e, literal value = .ok e → e.methods = []) :
    Speaks ([·]) (node.compileTemplatable parameters result literal) := by
  unfold Node.compileTemplatable
  split
  · exact speaks_compileLambda node parameters result
  · cases read : literal node.value with
    | ok e => exact speaks_pure (arePlain_single (plain _ e read))
    | error e => exact speaks_throw e

end Lambdas

section Actions

variable (arg : CppType) (node : Node)

theorem speaks_target : Speaks ([·]) (Switch.target node) := by
  unfold Switch.target
  split
  · exact speaks_object _
  · exact speaks_throw _

theorem speaks_stateAction (template : String) {factory : String} (listed : factory ∈ vocabulary) :
    Speaks ([·]) (Switch.stateAction template factory arg node) := by
  refine (speaks_target node).bind fun object plain => speaks_bindNew template arg fun method member => ?_
  rw [Expr.methods, plain.head, argMethods] at member
  exact List.mem_singleton.mp member ▸ listed

/-- A new object that is made of these. -/
theorem speaks_allocate (template : String) {args : List Expr} (plain : ArePlain args) :
    Speaks ([·]) (bindNew template arg (.allocate (instantiate template arg) args)) := by
  refine speaks_bindNew template arg fun method member => ?_
  rw [Expr.methods, argMethods_eq_nil plain] at member
  cases member

theorem speaks_stateCondition (on : Bool) : Speaks ([·]) (Switch.stateCondition on arg node) :=
  (speaks_target node).bind fun _ plain =>
    speaks_allocate arg _ (arePlain_cons plain.head (arePlain_single rfl))

theorem methods_delayLiteral (path : Path) (value : Value) (e : Expr) (read : delayLiteral path value = .ok e) :
    e.methods = [] := by
  cases value <;> cases read
  rfl

theorem speaks_call {object : Expr} {method : String} {args : List Expr} (listed : method ∈ vocabulary)
    (plain : object.methods = []) (each : ArePlain args) :
    Speaks (fun _ => []) (evaluate (object.call method args)) := by
  refine speaks_evaluate fun other member => ?_
  rw [methods_call method plain each] at member
  exact List.mem_singleton.mp member ▸ listed

theorem speaks_delay : Speaks ([·]) (delay arg node) := by
  have made : ∀ method ∈ (register (.allocate (instantiate "DelayAction" arg) [])).methods, method ∈ vocabulary := by
    intro method member
    rw [register, methods_call _ rfl (arePlain_single rfl)] at member
    exact List.mem_singleton.mp member ▸ by decide
  refine (speaks_bindNew _ arg made).bind fun action plain => ?_
  refine (speaks_compileTemplatable node _ _ (methods_delayLiteral node.path)).bind fun period plainToo => ?_
  exact (speaks_call (by decide) plain.head plainToo).bind fun _ _ => speaks_pure plain

theorem speaks_lambdaAction : Speaks ([·]) (lambdaAction arg node) :=
  (speaks_compileLambda node _ _).bind fun _ plain => speaks_allocate arg _ plain

theorem speaks_lambdaCondition : Speaks ([·]) (lambdaCondition arg node) :=
  (speaks_compileLambda node _ _).bind fun _ plain => speaks_allocate arg _ plain

theorem speaks_addActions {object : Expr} {method : String} {actions : List Expr} (listed : method ∈ vocabulary)
    (plain : object.methods = []) (each : ArePlain actions) :
    Speaks (fun _ => []) (addActions object method actions) := by
  unfold addActions
  split
  · exact speaks_pure arePlain_nil
  · exact speaks_call listed plain (arePlain_single (argMethods_eq_nil each))

theorem speaks_combination (template : String) {parts : List Expr} (each : ArePlain parts) :
    Speaks ([·]) (combination template arg parts) :=
  speaks_allocate arg template (arePlain_single (argMethods_eq_nil each))

/-- What is built of a list of values, where each of them gives an expression. -/
theorem speaks_cons {first : Build Expr} {rest : Build (List Expr)} (speaks : Speaks ([·]) first)
    (others : Speaks id rest) :
    Speaks id (do
      let e ← first
      let es ← rest
      return e :: es) :=
  speaks.bind fun _ plain => others.bind fun _ plainToo => speaks_pure (arePlain_cons plain.head plainToo)

theorem speaks_conditionItems {items : List Value}
    (each : ∀ item ∈ items, ∀ path, Speaks ([·]) (condition arg path item)) (path : Path) (position : Nat) :
    Speaks id (conditionItems arg path position items) := by
  induction items generalizing position with
  | nil => exact speaks_pure arePlain_nil
  | cons item rest ih =>
    exact speaks_cons (each item List.mem_cons_self _)
      (ih (fun other member => each other (List.mem_cons_of_mem _ member)) (position + 1))

/-- A value is built as a condition or as a list of them; each is made of the other. -/
theorem speaks_condition (value : Value) :
    (∀ path, Speaks ([·]) (condition arg path value)) ∧ ∀ path, Speaks id (conditions arg path value) := by
  induction value using Value.induct with
  | list items each =>
    exact ⟨fun _ => speaks_throw _, fun path =>
      speaks_conditionItems arg (fun item member => (each item member).1) path 0⟩
  | map entries each =>
    refine ⟨fun path => ?_, fun _ => speaks_pure arePlain_nil⟩
    cases entries with
    | nil => exact speaks_throw _
    | cons entry rest =>
      have deeper := (each entry List.mem_cons_self).2
      unfold condition
      split
      · exact (deeper _).bind fun _ plain => speaks_combination arg _ plain
      · exact (deeper _).bind fun _ plain => speaks_combination arg _ plain
      · exact speaks_lambdaCondition _ _
      · exact speaks_stateCondition _ _ _
      · exact speaks_stateCondition _ _ _
      · exact speaks_throw _
  | scalar value scalar =>
    cases value <;> first
      | exact ⟨fun _ => speaks_throw _, fun _ => speaks_pure arePlain_nil⟩
      | cases scalar

theorem speaks_conditionsUnder (key : String) (path : Path) (entries : Entries Value) :
    Speaks id (conditionsUnder key arg path entries) := by
  unfold conditionsUnder
  split
  · exact (speaks_condition arg _).2 _
  · exact speaks_pure arePlain_nil

theorem speaks_actionItems {items : List Value}
    (each : ∀ item ∈ items, ∀ path, Speaks ([·]) (action arg path item)) (path : Path) (position : Nat) :
    Speaks id (actionItems arg path position items) := by
  induction items generalizing position with
  | nil => exact speaks_pure arePlain_nil
  | cons item rest ih =>
    exact speaks_cons (each item List.mem_cons_self _)
      (ih (fun other member => each other (List.mem_cons_of_mem _ member)) (position + 1))

theorem speaks_actionsUnder {entries : List (String × Value)}
    (each : ∀ entry ∈ entries, ∀ path, Speaks id (actions arg path entry.2)) (key : String) (path : Path) :
    Speaks id (actionsUnder key arg path entries) := by
  induction entries with
  | nil => exact speaks_pure arePlain_nil
  | cons entry rest ih =>
    unfold actionsUnder
    split
    · exact each entry List.mem_cons_self _
    · exact ih fun other member => each other (List.mem_cons_of_mem _ member)

/-- The object of a branch, with the actions that are added to it. -/
theorem speaks_branch {entries : Entries Value}
    (each : ∀ entry ∈ entries, ∀ path, Speaks id (actions arg path entry.2)) (path : Path) :
    Speaks ([·]) (branch arg path (.map entries)) := by
  have under := speaks_actionsUnder arg each
  unfold branch
  refine (speaks_conditionsUnder arg _ _ _).bind fun parts plain => ?_
  refine (speaks_combination arg "IfAction" plain).bind fun object made => ?_
  refine (under _ _).bind fun yes plainYes => ?_
  refine (speaks_addActions (by decide) made.head plainYes).bind fun _ _ => ?_
  refine (under _ _).bind fun no plainNo => ?_
  exact (speaks_addActions (by decide) made.head plainNo).bind fun _ _ => speaks_pure made

/-- As for conditions; the mapping of a branch is a third form that holds lists of actions. -/
theorem speaks_action (value : Value) :
    (∀ path, Speaks ([·]) (action arg path value)) ∧ (∀ path, Speaks id (actions arg path value)) ∧
      ∀ path, Speaks ([·]) (branch arg path value) := by
  induction value using Value.induct with
  | list items each =>
    exact ⟨fun _ => speaks_throw _, fun path =>
      speaks_actionItems arg (fun item member => (each item member).1) path 0,
      fun _ => speaks_combination arg _ arePlain_nil⟩
  | map entries each =>
    refine ⟨fun path => ?_, fun _ => speaks_pure arePlain_nil, speaks_branch arg fun entry member =>
      (each entry member).2.1⟩
    cases entries with
    | nil => exact speaks_throw _
    | cons entry rest =>
      unfold action
      split
      · exact speaks_delay _ _
      · exact speaks_lambdaAction _ _
      · exact (each entry List.mem_cons_self).2.2 _
      · exact speaks_stateAction _ _ _ (by decide)
      · exact speaks_stateAction _ _ _ (by decide)
      · exact speaks_stateAction _ _ _ (by decide)
      · exact speaks_throw _
  | scalar value scalar =>
    cases value <;> first
      | exact ⟨fun _ => speaks_throw _, fun _ => speaks_pure arePlain_nil,
          fun _ => speaks_combination arg _ arePlain_nil⟩
      | cases scalar

end Actions

section Connections

variable {arg : CppType} {trigger : CppType}

/-- The statements of an automation: its trigger, the object that connects it with the actions, and the actions. -/
def IsAutomation (arg : CppType) (made : Expr) (block : List Statement) : Prop :=
  ∃ start automation actions, Spoken actions ∧
    block = .bind start made :: .bind automation (Expr.app.method "make_automation" [arg] [.reference start]) :: actions

theorem appends_connect (id : ObjectId) (made : Expr) (list : Node) :
    (connect id made arg list).Appends fun _ added => ∃ symbol actions, Spoken actions ∧
      added = .bind symbol (Expr.app.method "make_automation" [arg] [made]) :: actions := by
  refine (appends_bindGlobal _ _ _).bind fun symbol added only => ?_
  subst only
  refine Appends.bind ((speaks_action arg list.value).2.1 list.path) fun entries more result => ?_
  obtain ⟨plain, spoken⟩ := result
  refine Appends.bind (speaks_addActions (by decide) rfl plain) fun _ last result => ?_
  exact appends_pure ⟨symbol, more ++ last, spoken.append result.2, by simp⟩

theorem appends_build (made : Expr) (node : Node) :
    (build made arg node).Appends fun _ added => ∃ symbol actions, Spoken actions ∧
      added = .bind symbol (Expr.app.method "make_automation" [arg] [made]) :: actions := by
  unfold build
  dsimp only
  split
  · exact appends_connect _ _ _
  · exact appends_throw _

theorem appends_buildAll (makeTrigger : Node → Expr) (nodes : List Node) :
    (buildAll trigger arg makeTrigger nodes).Appends fun _ added => ∃ blocks, added = blocks.flatten ∧
      List.Forall₂ (fun node block => IsAutomation arg (makeTrigger node) block) nodes blocks := by
  induction nodes with
  | nil => exact appends_pure ⟨[], rfl, .nil⟩
  | cons node rest ih =>
    refine (appends_bindGlobal _ _ _).bind fun start added only => ?_
    subst only
    refine (appends_build (.reference start) node).bind fun _ more result => ?_
    obtain ⟨automation, actions, spoken, rfl⟩ := result
    refine ih.mono fun _ last others => ?_
    obtain ⟨blocks, rfl, each⟩ := others
    exact ⟨_ :: blocks, rfl, .cons ⟨start, automation, actions, spoken, rfl⟩ each⟩

theorem appends_buildUnder (key : String) (makeTrigger : Node → Expr) (node : Node) :
    (buildUnder key trigger arg makeTrigger node).Appends fun _ added => ∃ blocks, added = blocks.flatten ∧
      List.Forall₂ (fun entry block => IsAutomation arg (makeTrigger entry) block) (node.itemsUnder key) blocks := by
  unfold buildUnder Node.itemsUnder
  cases node.get? key with
  | none => exact appends_pure ⟨[], rfl, .nil⟩
  | some list => exact appends_buildAll makeTrigger list.items

end Connections

end Automation

end DeviceConfig
