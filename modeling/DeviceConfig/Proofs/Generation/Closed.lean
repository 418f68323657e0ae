import DeviceConfig.Automation.Action
import DeviceConfig.Proofs.Assembly.Parts
import DeviceConfig.Proofs.Value.Parts

/-!
What holds of the steps that actions are made of, and of steps that are put together, holds of building actions
(`Build.IsClosed.action`), whatever they are built of.
-/

namespace DeviceConfig

namespace Build

variable {α : Type}

/-- The property holds of the steps that actions are made of, and passes to steps that follow each other. -/
structure IsClosed (holds : (α : Type) → Build α → Prop) : Prop where
  pure {α : Type} (a : α) : holds α (pure a)
  throw {α : Type} (e : CompileError) : holds α (throw e)
  bind {α β : Type} {first : Build α} {next : α → Build β} :
    holds α first → (∀ a, holds β (next a)) → holds β (first >>= next)
  ofSymbols {α : Type} (read : Symbols → Except CompileError α) : holds α (ofSymbols read)
  evaluate (e : Cpp.Expr) : holds Unit (evaluate e)
  nameLambda : holds Cpp.Symbol (declare "lambda" Lambda.type .inline)
  define (symbol : Cpp.Symbol) (definition : Cpp.Expr) : holds Unit (define symbol definition)
  bindNew {template : String} (arg : CppType) (definition : Cpp.Expr) : template ∈ Automation.templates →
    holds Cpp.Expr (Automation.bindNew template arg definition)

namespace IsClosed

variable {holds : (α : Type) → Build α → Prop} (closed : IsClosed holds)
include closed

section Lambdas

variable (node : Node) (parameters : List Cpp.Parameter) (result : Option CppType)

theorem lacking (lack : Lack) : holds α (Build.lacking node lack) := closed.throw _

theorem writtenCode : holds String node.writtenCode := by
  unfold Node.writtenCode
  split
  · exact closed.pure _
  · exact closed.pure _
  · exact closed.lacking _ _

theorem declareLambda (source : String) (path : Path) :
    holds Lambda.Pending (Lambda.declare source path parameters result) := by
  unfold Lambda.declare
  split
  · exact closed.throw _
  · exact closed.bind closed.nameLambda fun _ => closed.pure _

theorem defineLambda (pending : Lambda.Pending) : holds Cpp.Expr pending.define :=
  closed.bind (closed.ofSymbols _) fun _ => closed.bind (closed.define _ _) fun _ => closed.pure _

theorem lambdaAhead : holds Lambda.Pending (node.lambdaAhead parameters result) :=
  closed.bind (closed.writtenCode node) fun _ => closed.declareLambda _ _ _ _

theorem compileLambda : holds Cpp.Expr (node.compileLambda parameters result) :=
  closed.bind (closed.writtenCode node) fun _ => closed.bind (closed.declareLambda _ _ _ _) closed.defineLambda

theorem compileTemplatable (literal : Value → Except CompileError Cpp.Expr) :
    holds Cpp.Expr (node.compileTemplatable parameters result literal) := by
  unfold Node.compileTemplatable
  split
  · exact closed.compileLambda node _ _
  · split
    · exact closed.pure _
    · exact closed.throw _

end Lambdas

section Actions

open Automation

variable (arg : CppType) (node : Node)

theorem target : holds Cpp.Expr (Switch.target node) := by
  unfold Switch.target
  split
  · exact closed.ofSymbols _
  · exact closed.lacking _ _

theorem stateAction {template : String} (factory : String) (listed : template ∈ templates) :
    holds Cpp.Expr (Switch.stateAction template factory arg node) :=
  closed.bind (closed.target node) fun _ => closed.bindNew _ _ listed

theorem stateCondition (on : Bool) : holds Cpp.Expr (Switch.stateCondition on arg node) :=
  closed.bind (closed.target node) fun _ => closed.bindNew _ _ (by decide)

theorem delay : holds Cpp.Expr (delay arg node) :=
  closed.bind (closed.bindNew _ _ (by decide)) fun _ =>
    closed.bind (closed.compileTemplatable node _ _ _) fun _ =>
    closed.bind (closed.evaluate _) fun _ => closed.pure _

theorem lambdaAction : holds Cpp.Expr (lambdaAction arg node) :=
  closed.bind (closed.compileLambda node _ _) fun _ => closed.bindNew _ _ (by decide)

theorem lambdaCondition : holds Cpp.Expr (lambdaCondition arg node) :=
  closed.bind (closed.compileLambda node _ _) fun _ => closed.bindNew _ _ (by decide)

theorem addActions (object : Cpp.Expr) (method : String) (actions : List Cpp.Expr) :
    holds Unit (addActions object method actions) := by
  unfold Automation.addActions
  split
  · exact closed.pure _
  · exact closed.evaluate _

theorem conditionItems {items : List Value}
    (each : ∀ item ∈ items, ∀ path, holds Cpp.Expr (Automation.condition arg path item)) (path : Path)
    (position : Nat) : holds (List Cpp.Expr) (conditionItems arg path position items) := by
  induction items generalizing position with
  | nil => exact closed.pure _
  | cons item rest ih =>
    have first := each item (List.mem_cons_self ..) (path.index position)
    have others := ih (fun other member => each other (List.mem_cons_of_mem _ member)) (position + 1)
    exact closed.bind first fun _ => closed.bind others fun _ => closed.pure _

/-- A value is built as a condition or as a list of them; each is made of the other. -/
theorem condition (value : Value) :
    (∀ path, holds Cpp.Expr (condition arg path value)) ∧
      ∀ path, holds (List Cpp.Expr) (conditions arg path value) := by
  induction value using Value.induct with
  | list items each =>
    exact ⟨fun _ => closed.throw _, fun path =>
      closed.conditionItems arg (fun item member => (each item member).1) path 0⟩
  | map entries each =>
    refine ⟨fun path => ?_, fun _ => closed.pure _⟩
    cases entries with
    | nil => exact closed.throw _
    | cons entry rest =>
      have deeper := (each entry (List.mem_cons_self ..)).2
      unfold Automation.condition
      split
      · exact closed.bind (deeper _) fun _ => closed.bindNew _ _ (by decide)
      · exact closed.bind (deeper _) fun _ => closed.bindNew _ _ (by decide)
      · exact closed.lambdaCondition _ _
      · exact closed.stateCondition _ _ _
      · exact closed.stateCondition _ _ _
      · exact closed.throw _
  | scalar value scalar =>
    cases value <;> first
      | exact ⟨fun _ => closed.throw _, fun _ => closed.pure _⟩
      | cases scalar

theorem conditionsUnder (key : String) (path : Path) (entries : Entries Value) :
    holds (List Cpp.Expr) (conditionsUnder key arg path entries) := by
  unfold Automation.conditionsUnder
  split
  · exact (closed.condition arg _).2 _
  · exact closed.pure _

theorem actionItems {items : List Value}
    (each : ∀ item ∈ items, ∀ path, holds Cpp.Expr (Automation.action arg path item)) (path : Path)
    (position : Nat) : holds (List Cpp.Expr) (actionItems arg path position items) := by
  induction items generalizing position with
  | nil => exact closed.pure _
  | cons item rest ih =>
    have first := each item (List.mem_cons_self ..) (path.index position)
    have others := ih (fun other member => each other (List.mem_cons_of_mem _ member)) (position + 1)
    exact closed.bind first fun _ => closed.bind others fun _ => closed.pure _

theorem actionsUnder {entries : List (String × Value)}
    (each : ∀ entry ∈ entries, ∀ path, holds (List Cpp.Expr) (actions arg path entry.2)) (key : String)
    (path : Path) : holds (List Cpp.Expr) (actionsUnder key arg path entries) := by
  induction entries with
  | nil => exact closed.pure _
  | cons entry rest ih =>
    unfold Automation.actionsUnder
    split
    · exact each entry (List.mem_cons_self ..) _
    · exact ih fun other member => each other (List.mem_cons_of_mem _ member)

/-- As for conditions; the mapping of a branch is a third form that holds lists of actions. -/
theorem action (value : Value) :
    (∀ path, holds Cpp.Expr (action arg path value)) ∧
      (∀ path, holds (List Cpp.Expr) (actions arg path value)) ∧
      ∀ path, holds Cpp.Expr (branch arg path value) := by
  induction value using Value.induct with
  | list items each =>
    exact ⟨fun _ => closed.throw _, fun path =>
      closed.actionItems arg (fun item member => (each item member).1) path 0,
      fun _ => closed.bindNew _ _ (by decide)⟩
  | map entries each =>
    refine ⟨fun path => ?_, fun _ => closed.pure _, fun path => ?_⟩
    · cases entries with
      | nil => exact closed.throw _
      | cons entry rest =>
        unfold Automation.action
        split
        · exact closed.delay _ _
        · exact closed.lambdaAction _ _
        · exact (each entry (List.mem_cons_self ..)).2.2 _
        · exact closed.stateAction _ _ _ (by decide)
        · exact closed.stateAction _ _ _ (by decide)
        · exact closed.stateAction _ _ _ (by decide)
        · exact closed.throw _
    · have under := closed.actionsUnder arg fun entry member => (each entry member).2.1
      unfold branch
      exact closed.bind (closed.conditionsUnder _ _ _ _) fun _ =>
        closed.bind (closed.bindNew _ _ (by decide)) fun _ =>
        closed.bind (under _ _) fun _ => closed.bind (closed.addActions _ _ _) fun _ =>
        closed.bind (under _ _) fun _ => closed.bind (closed.addActions _ _ _) fun _ => closed.pure _
  | scalar value scalar =>
    cases value <;> first
      | exact ⟨fun _ => closed.throw _, fun _ => closed.pure _, fun _ => closed.bindNew _ _ (by decide)⟩
      | cases scalar

end Actions

end IsClosed

end Build

end DeviceConfig
