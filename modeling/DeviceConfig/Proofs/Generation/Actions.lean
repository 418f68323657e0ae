import DeviceConfig.Automation.Action
import DeviceConfig.Proofs.Generation.Lambdas
import DeviceConfig.Proofs.Schema.Declarations

/-!
Actions and conditions in normal form become objects, each bound before the expression for it is returned.
No names of the user are defined on the way, and nothing fails but the lambdas.
-/

namespace DeviceConfig

/-- The code and the references in a value are among these, and no key stands twice in a mapping. -/
structure Value.Within (users codes : List String) (value : Value) : Prop where
  lambdas : ∀ code ∈ value.lambdas, code ∈ codes
  uses : ∀ id ∈ value.ids, id.role = .used → id.name ∈ users
  differ : value.keysDiffer = true

namespace Value.Within

variable {users codes : List String}

theorem item {items : List Value} (within : (Value.list items).Within users codes) {item : Value}
    (member : item ∈ items) : item.Within users codes := by
  obtain ⟨lambdas, uses, differ⟩ := within
  rw [Value.lambdas_list] at lambdas
  rw [Value.ids_list] at uses
  exact ⟨fun code inside => lambdas code (List.mem_flatMap.mpr ⟨item, member, inside⟩),
    fun id inside => uses id (List.mem_flatMap.mpr ⟨item, member, inside⟩),
    Value.keysDiffer_list.mp differ item member⟩

theorem entry {entries : Entries Value} (within : (Value.map entries).Within users codes)
    {entry : String × Value} (member : entry ∈ entries) : entry.2.Within users codes := by
  obtain ⟨lambdas, uses, differ⟩ := within
  rw [Value.lambdas_map] at lambdas
  rw [Value.ids_map] at uses
  exact ⟨fun code inside => lambdas code (List.mem_flatMap.mpr ⟨entry, member, inside⟩),
    fun id inside => uses id (List.mem_flatMap.mpr ⟨entry, member, inside⟩),
    (Value.keysDiffer_map.mp differ).2 entry member⟩

theorem under {entries : Entries Value} (within : (Value.map entries).Within users codes) {key : String}
    {value : Value} (present : Entries.get? key entries = some value) : value.Within users codes :=
  within.entry (Entries.mem_of_get? present)

theorem distinct {entries : Entries Value} (within : (Value.map entries).Within users codes) :
    Entries.Distinct entries := (Value.keysDiffer_map.mp within.differ).1

theorem code_mem {code : String} (within : (Value.lambda code).Within users codes) : code ∈ codes :=
  within.lambdas code (List.mem_singleton_self _)

end Value.Within

namespace Draft

variable {users : List String}

/-- An expression is made: it may be used from now on, and no name of the user was defined for it. -/
def Makes (users : List String) (d : Draft) (e : Cpp.Expr) (next : Draft) : Prop :=
  Binds users [] d next ∧ next.Usable users e

/-- A list of expressions is made. -/
def MakesAll (users : List String) (d : Draft) (es : List Cpp.Expr) (next : Draft) : Prop :=
  Binds users [] d next ∧ ∀ e ∈ es, next.Usable users e

theorem usable_args {d : Draft} {es : List Cpp.Expr} (each : ∀ e ∈ es, d.Usable users e) :
    ∀ mentioned ∈ Cpp.argReferences es, MayMention users d.symbols d.statements mentioned.name := by
  induction es with
  | nil =>
    intro mentioned member
    cases member
  | cons e rest ih =>
    intro mentioned member
    rcases List.mem_append.mp member with here | later
    · exact each e (List.mem_cons_self ..) mentioned here
    · exact ih (fun other inside => each other (List.mem_cons_of_mem _ inside)) mentioned later

theorem usable_single {d : Draft} {e : Cpp.Expr} (usable : d.Usable users e) :
    ∀ arg ∈ [e], d.Usable users arg := by
  intro arg member
  cases List.mem_singleton.mp member
  exact usable

theorem usable_of_args {d : Draft} {e : Cpp.Expr} {args : List Cpp.Expr}
    (whole : e.references = Cpp.argReferences args) (each : ∀ e ∈ args, d.Usable users e) :
    d.Usable users e := by
  intro mentioned member
  rw [whole] at member
  exact usable_args each mentioned member

theorem usable_append {d : Draft} {e object : Cpp.Expr} {args : List Cpp.Expr}
    (whole : e.references = object.references ++ Cpp.argReferences args) (usable : d.Usable users object)
    (each : ∀ e ∈ args, d.Usable users e) : d.Usable users e := by
  intro mentioned member
  rw [whole] at member
  rcases List.mem_append.mp member with here | later
  · exact usable mentioned here
  · exact usable_args each mentioned later

theorem usable_of_references_nil {d : Draft} {e : Cpp.Expr} (none : e.references = []) : d.Usable users e := by
  intro mentioned member
  rw [none] at member
  cases member

end Draft

namespace Automation

open Build Draft Lambda

variable {users codes : List String} {d : Draft}

theorem yields_cons {first : Build Cpp.Expr} {rest : Build (List Cpp.Expr)} {fails : CompileError → Prop}
    (head : first.Yields d fails (Makes users d))
    (tail : ∀ next, next.Sound users → rest.Yields next fails (MakesAll users next)) :
    Yields (do
      let e ← first
      let es ← rest
      return e :: es) d fails (MakesAll users d) := by
  refine head.bind fun e next ⟨binds, usable⟩ => ?_
  refine (tail next binds.sound).bind fun es last ⟨later, others⟩ => yields_pure ?_
  refine ⟨binds.trans later, fun other member => ?_⟩
  rcases List.mem_cons.mp member with rfl | inRest
  · exact later.usable usable
  · exact others other inRest

theorem yields_compileLambda (sound : d.Sound users) {path : Path} {code : String} (known : code ∈ codes)
    (parameters : List Cpp.Parameter) (result : Option CppType) :
    Yields ((⟨path, .lambda code⟩ : Node).compileLambda parameters result) d (FaultOf codes)
      (Makes users d) :=
  Lambda.yields_compile sound known path parameters result

theorem yields_delay (sound : d.Sound users) {arg : CppType} {path : Path} {value : Value}
    (normal : Schema.Normal (.templatable .duration) value) (within : value.Within users codes) :
    Yields (delay arg ⟨path, value⟩) d (FaultOf codes) (Makes users d) := by
  have period {next : Draft} (sound : next.Sound users) :
      Yields ((⟨path, value⟩ : Node).compileTemplatable (parameters arg) (some .uint32) (delayLiteral path))
        next (FaultOf codes) (Makes users next) := by
    rcases normal.templated with ⟨code, rfl⟩ | own
    · exact yields_compileLambda sound within.code_mem _ _
    · obtain ⟨time, rfl⟩ := own.exists_duration
      exact yields_pure ⟨.refl sound, usable_of_references_nil rfl⟩
  have object : d.Usable users (register (.allocate (instantiate "DelayAction" arg) [])) :=
    usable_of_references_nil rfl
  refine (yields_bindNew sound object).bind fun action later ⟨binds, usable⟩ => ?_
  refine (period binds.sound).bind fun time next ⟨more, timeUsable⟩ => ?_
  have call : next.Usable users (action.call "set_delay" [time]) :=
    usable_append rfl (more.usable usable) (usable_single timeUsable)
  refine (yields_evaluate more.sound call).bind fun _ last final => yields_pure ?_
  exact ⟨(binds.trans more).trans final, final.usable (more.usable usable)⟩

theorem yields_lambdaObject (sound : d.Sound users) {arg : CppType} {path : Path} {value : Value}
    (normal : Schema.Normal .lambda value) (within : value.Within users codes) (template : String)
    (result : Option CppType) :
    Yields (do
      let code ← (⟨path, value⟩ : Node).compileLambda (parameters arg) result
      bindNew template arg (.allocate (instantiate template arg) [code])) d (FaultOf codes) (Makes users d) := by
  obtain ⟨code, rfl⟩ := normal.exists_lambda
  refine (yields_compileLambda sound within.code_mem _ _).bind fun lambda next ⟨binds, usable⟩ => ?_
  refine (yields_bindNew binds.sound (usable_of_args rfl (usable_single usable))).mono fun e last made => ?_
  exact ⟨binds.trans made.1, made.2⟩

theorem yields_target (sound : d.Sound users) {fails : CompileError → Prop} {path : Path} {value : Value}
    (normal : Schema.Normal Switch.referenceSchema value) (within : value.Within users codes) :
    Yields (Switch.target ⟨path, value⟩) d fails fun e next => next = d ∧ d.Usable users e := by
  have fields := normal.of_withSimpleId
  obtain ⟨entries, rfl⟩ := fields.exists_map
  have field : FieldSet.find? "id" (FieldSet.empty.required "id" (Schema.useId Switch.type)).fields =
      some ⟨"id", .required, .useId Switch.type⟩ := rfl
  obtain ⟨inner, present, own⟩ := fields.needed field rfl
  obtain ⟨id, rfl, admits⟩ := own.exists_used
  have used : id.role = .used := admits.role_eq.resolve_right fun both => nomatch both.2
  have known : id.name ∈ users := (within.under present).uses id (List.mem_singleton_self _) used
  rw [Switch.target, Node.id?_of_present present]
  exact yields_object sound known

theorem yields_stateAction (sound : d.Sound users) {template factory : String} {arg : CppType} {path : Path}
    {value : Value} (normal : Schema.Normal Switch.referenceSchema value)
    (within : value.Within users codes) :
    Yields (Switch.stateAction template factory arg ⟨path, value⟩) d (FaultOf codes) (Makes users d) := by
  refine (yields_target sound normal within).bind fun object next ⟨same, usable⟩ => ?_
  subst same
  exact yields_bindNew sound (usable_append rfl usable fun _ member => nomatch member)

theorem yields_stateCondition (sound : d.Sound users) {on : Bool} {arg : CppType} {path : Path} {value : Value}
    (normal : Schema.Normal Switch.referenceSchema value) (within : value.Within users codes) :
    Yields (Switch.stateCondition on arg ⟨path, value⟩) d (FaultOf codes) (Makes users d) := by
  refine (yields_target sound normal within).bind fun object next ⟨same, usable⟩ => ?_
  subst same
  refine yields_bindNew sound (usable_of_args rfl fun e member => ?_)
  rcases List.mem_cons.mp member with rfl | last
  · exact usable
  · cases List.mem_singleton.mp last
    exact usable_of_references_nil rfl

theorem yields_combination (sound : d.Sound users) {fails : CompileError → Prop} {template : String}
    {arg : CppType} {parts : List Cpp.Expr} (usable : ∀ e ∈ parts, d.Usable users e) :
    Yields (combination template arg parts) d fails (Makes users d) := by
  have aggregate : d.Usable users (.aggregate parts) := usable_of_args rfl usable
  exact yields_bindNew sound (usable_of_args rfl (usable_single aggregate))

theorem yields_addActions (sound : d.Sound users) {fails : CompileError → Prop} {object : Cpp.Expr}
    {method : String} {actions : List Cpp.Expr} (usable : d.Usable users object)
    (each : ∀ e ∈ actions, d.Usable users e) :
    Yields (addActions object method actions) d fails fun _ next => Binds users [] d next := by
  rw [addActions]
  split
  · exact yields_pure (.refl sound)
  · have aggregate : d.Usable users (.aggregate actions) := usable_of_args rfl each
    exact yields_evaluate sound (usable_append rfl usable (usable_single aggregate))

section Conditions

variable {arg : CppType}

theorem exists_conditionKind {value : Value} (normal : Schema.Normal (.recursive .condition) value) :
    ∃ kind config, value = .map [(ConditionKind.key kind, config)] ∧
      ConditionKind.ofKey? kind.key = some kind ∧ kind.schema.Normal config := by
  obtain ⟨key, schema, config, rfl, chosen, own⟩ := normal.of_recursive.single
  obtain ⟨kind, -, same⟩ := List.mem_map.mp (Entries.mem_of_get? chosen)
  obtain ⟨rfl, rfl⟩ := Prod.mk.inj same
  exact ⟨kind, config, rfl, by cases kind <;> rfl, own⟩

theorem yields_conditions_list {items : List Value}
    (each : ∀ item ∈ items, ∀ (path : Path) (d : Draft), d.Sound users →
      (condition arg path item).Yields d (FaultOf codes) (Makes users d))
    (sound : d.Sound users) (path : Path) :
    (conditions arg path (.list items)).Yields d (FaultOf codes) (MakesAll users d) := by
  rw [conditions]
  generalize 0 = position
  induction items generalizing position d with
  | nil => exact yields_pure ⟨.refl sound, fun _ member => nomatch member⟩
  | cons item rest ih =>
    refine yields_cons (each item (List.mem_cons_self ..) _ d sound) fun next later => ?_
    exact ih (fun other member => each other (List.mem_cons_of_mem _ member)) later (position + 1)

theorem yields_condition {value : Value} (within : value.Within users codes) :
    (Schema.Normal (.recursive .condition) value → ∀ (path : Path) (d : Draft), d.Sound users →
      (condition arg path value).Yields d (FaultOf codes) (Makes users d)) ∧
    (Schema.Normal Schema.conditions value → ∀ (path : Path) (d : Draft), d.Sound users →
      (conditions arg path value).Yields d (FaultOf codes) (MakesAll users d)) := by
  -- a list holds conditions, and a condition holds a list or no condition at all
  induction value using Value.induct with
  | list items each =>
    refine ⟨fun normal => ?_, fun normal path d sound => ?_⟩
    · obtain ⟨kind, config, same, -⟩ := exists_conditionKind normal
      cases same
    · obtain ⟨others, same, normals⟩ := normal.exists_list
      cases same
      refine yields_conditions_list (fun item member => ?_) sound path
      exact (each item member (within.item member)).1 (normals item member)
  | map entries each =>
    refine ⟨fun normal path d sound => ?_, fun normal => ?_⟩
    · obtain ⟨kind, config, same, named, own⟩ := exists_conditionKind normal
      cases same
      have inside := within.entry (List.mem_singleton_self (kind.key, config))
      have deeper := (each _ (List.mem_singleton_self (kind.key, config)) inside).2
      simp only [condition, named]
      cases kind with
      | every =>
        refine (deeper own _ d sound).bind fun parts next ⟨binds, usable⟩ => ?_
        refine (yields_combination binds.sound usable).mono fun e last made => ?_
        exact ⟨binds.trans made.1, made.2⟩
      | either =>
        refine (deeper own _ d sound).bind fun parts next ⟨binds, usable⟩ => ?_
        refine (yields_combination binds.sound usable).mono fun e last made => ?_
        exact ⟨binds.trans made.1, made.2⟩
      | lambda => exact yields_lambdaObject sound own inside _ _
      | isOn => exact yields_stateCondition sound own inside
      | isOff => exact yields_stateCondition sound own inside
    · obtain ⟨others, same, -⟩ := normal.exists_list
      cases same
  | scalar value scalar =>
    refine ⟨fun normal => ?_, fun normal => ?_⟩
    · obtain ⟨kind, config, same, -⟩ := exists_conditionKind normal
      rw [same] at scalar
      cases scalar
    · obtain ⟨others, same, -⟩ := normal.exists_list
      rw [same] at scalar
      cases scalar

end Conditions

section Actions

variable {arg : CppType}

theorem exists_actionKind {value : Value} (normal : Schema.Normal (.recursive .action) value) :
    ∃ kind config, value = .map [(ActionKind.key kind, config)] ∧
      ActionKind.ofKey? kind.key = some kind ∧ kind.schema.Normal config := by
  obtain ⟨key, schema, config, rfl, chosen, own⟩ := normal.of_recursive.single
  obtain ⟨kind, -, same⟩ := List.mem_map.mp (Entries.mem_of_get? chosen)
  obtain ⟨rfl, rfl⟩ := Prod.mk.inj same
  exact ⟨kind, config, rfl, by cases kind <;> rfl, own⟩

theorem yields_conditionsUnder (sound : d.Sound users) {key : String} {path : Path} {entries : Entries Value}
    (normal : ∀ value, Entries.get? key entries = some value → Schema.Normal Schema.conditions value)
    (within : (Value.map entries).Within users codes) :
    (conditionsUnder key arg path entries).Yields d (FaultOf codes) (MakesAll users d) := by
  rw [conditionsUnder]
  cases present : Entries.get? key entries with
  | none => exact yields_pure ⟨.refl sound, fun _ member => nomatch member⟩
  | some value => exact (yields_condition (within.under present)).2 (normal value present) _ d sound

theorem actionsUnder_eq (key : String) (path : Path) (entries : Entries Value) :
    actionsUnder key arg path entries =
      match Entries.get? key entries with
      | some value => actions arg (path.key key) value
      | none => return [] := by
  induction entries with
  | nil => rfl
  | cons entry rest ih =>
    obtain ⟨k, value⟩ := entry
    rw [actionsUnder, Entries.get?, ih]
    split <;> rfl

theorem yields_actionsUnder {key : String} {path : Path} {entries : Entries Value} (sound : d.Sound users)
    (each : ∀ value, Entries.get? key entries = some value → ∀ (path : Path) (d : Draft), d.Sound users →
      (actions arg path value).Yields d (FaultOf codes) (MakesAll users d)) :
    (actionsUnder key arg path entries).Yields d (FaultOf codes) (MakesAll users d) := by
  rw [actionsUnder_eq]
  cases present : Entries.get? key entries with
  | none => exact yields_pure ⟨.refl sound, fun _ member => nomatch member⟩
  | some value => exact each value present _ d sound

theorem yields_branch {path : Path} {entries : Entries Value} (sound : d.Sound users)
    (normal : Schema.Normal (.fields Schema.ifFields) (.map entries))
    (within : (Value.map entries).Within users codes)
    (each : ∀ key value, Entries.get? key entries = some value → Schema.Normal Schema.actions value →
      ∀ (path : Path) (d : Draft), d.Sound users →
        (actions arg path value).Yields d (FaultOf codes) (MakesAll users d)) :
    (branch arg path (.map entries)).Yields d (FaultOf codes) (Makes users d) := by
  have condition : FieldSet.find? "condition" Schema.ifFields.fields =
      some ⟨"condition", .required, Schema.conditions⟩ := rfl
  have yes : FieldSet.find? "then" Schema.ifFields.fields =
      some ⟨"then", .optional, Schema.actions⟩ := rfl
  have no : FieldSet.find? "else" Schema.ifFields.fields =
      some ⟨"else", .optional, Schema.actions⟩ := rfl
  rw [branch]
  -- the branch is bound after its conditions, and before the actions that are added to it
  refine (yields_conditionsUnder sound (fun value present => normal.entry condition present) within).bind
    fun parts first ⟨bindsParts, usable⟩ => ?_
  refine (yields_combination bindsParts.sound usable).bind fun object second ⟨bindsObject, mention⟩ => ?_
  refine (yields_actionsUnder bindsObject.sound fun value present =>
    each _ value present (normal.entry yes present)).bind fun actions third ⟨bindsYes, usableYes⟩ => ?_
  refine (yields_addActions bindsYes.sound (bindsYes.usable mention) usableYes).bind fun _ fourth added => ?_
  refine (yields_actionsUnder added.sound fun value present =>
    each _ value present (normal.entry no present)).bind fun others fifth ⟨bindsNo, usableNo⟩ => ?_
  have still := bindsNo.usable (added.usable (bindsYes.usable mention))
  refine (yields_addActions bindsNo.sound still usableNo).bind fun _ last addedToo => yields_pure ?_
  have parts := bindsParts.trans bindsObject
  have whole := ((parts.trans (bindsYes.trans added)).trans bindsNo).trans addedToo
  exact ⟨whole, addedToo.usable still⟩

theorem yields_actions_list {items : List Value}
    (each : ∀ item ∈ items, ∀ (path : Path) (d : Draft), d.Sound users →
      (action arg path item).Yields d (FaultOf codes) (Makes users d))
    (sound : d.Sound users) (path : Path) :
    (actions arg path (.list items)).Yields d (FaultOf codes) (MakesAll users d) := by
  rw [actions]
  generalize 0 = position
  induction items generalizing position d with
  | nil => exact yields_pure ⟨.refl sound, fun _ member => nomatch member⟩
  | cons item rest ih =>
    refine yields_cons (each item (List.mem_cons_self ..) _ d sound) fun next later => ?_
    exact ih (fun other member => each other (List.mem_cons_of_mem _ member)) later (position + 1)

/-- An action is made out of what its key wants, at any depth of actions inside actions. -/
theorem yields_action {value : Value} (within : value.Within users codes) :
    (Schema.Normal (.recursive .action) value → ∀ (path : Path) (d : Draft), d.Sound users →
      (action arg path value).Yields d (FaultOf codes) (Makes users d)) ∧
    (Schema.Normal Schema.actions value → ∀ (path : Path) (d : Draft), d.Sound users →
      (actions arg path value).Yields d (FaultOf codes) (MakesAll users d)) ∧
    (Schema.Normal (.fields Schema.ifFields) value → ∀ (path : Path) (d : Draft), d.Sound users →
      (branch arg path value).Yields d (FaultOf codes) (Makes users d)) := by
  -- a branch holds lists of actions, and a list holds actions, some of which hold a branch
  induction value using Value.induct with
  | list items each =>
    refine ⟨fun normal => ?_, fun normal path d sound => ?_, fun normal => ?_⟩
    · obtain ⟨kind, config, same, -⟩ := exists_actionKind normal
      cases same
    · obtain ⟨others, same, normals⟩ := normal.exists_list
      cases same
      refine yields_actions_list (fun item member => ?_) sound path
      exact (each item member (within.item member)).1 (normals item member)
    · obtain ⟨entries, same⟩ := normal.exists_map
      cases same
  | map entries each =>
    refine ⟨fun normal path d sound => ?_, fun normal => ?_, fun normal path d sound => ?_⟩
    · obtain ⟨kind, config, same, named, own⟩ := exists_actionKind normal
      cases same
      have inside := within.entry (List.mem_singleton_self (kind.key, config))
      have deeper := (each _ (List.mem_singleton_self (kind.key, config)) inside).2.2
      simp only [action, named]
      cases kind with
      | delay => exact yields_delay sound own inside
      | lambda => exact yields_lambdaObject sound own inside _ _
      | branch => exact deeper own _ d sound
      | turnOn => exact yields_stateAction sound own inside
      | turnOff => exact yields_stateAction sound own inside
      | toggle => exact yields_stateAction sound own inside
    · obtain ⟨others, same, -⟩ := normal.exists_list
      cases same
    · refine yields_branch sound normal within fun key value present own => ?_
      exact (each _ (Entries.mem_of_get? present) (within.under present)).2.1 own
  | scalar value scalar =>
    refine ⟨fun normal => ?_, fun normal => ?_, fun normal => ?_⟩
    · obtain ⟨kind, config, same, -⟩ := exists_actionKind normal
      rw [same] at scalar
      cases scalar
    · obtain ⟨others, same, -⟩ := normal.exists_list
      rw [same] at scalar
      cases scalar
    · obtain ⟨entries, same⟩ := normal.exists_map
      rw [same] at scalar
      cases scalar

end Actions

end Automation

end DeviceConfig
