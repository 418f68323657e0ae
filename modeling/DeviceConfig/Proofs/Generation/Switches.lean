import DeviceConfig.Proofs.Generation.Automations
import DeviceConfig.Switch.Build

/-!
The section `switch` as code. An entry binds the names that users declared in it: those of its switches
first, and then those in the automations of each.
-/

namespace DeviceConfig

namespace Build

open Draft

variable {users : List String} {d : Draft} {fails : CompileError → Prop}

/-- A step that is made if there is something to make it of. -/
def optionally {α : Type} (option : Option α) (step : α → Build Unit) : Build Unit :=
  match option with
  | some a => step a
  | none => return ()

theorem yields_optionally (sound : d.Sound users) {α : Type} {option : Option α} {step : α → Build Unit}
    (each : ∀ a, option = some a → (step a).Yields d fails fun _ next => Binds users [] d next) :
    (optionally option step).Yields d fails fun _ next => Binds users [] d next := by
  cases option with
  | none => exact yields_pure (.refl sound)
  | some a => exact each a rfl

end Build

/-- The names that users declared under keys of a mapping; other values have none. -/
def namesAt (keys : List String) : Value → List String
  | .map entries => keys.flatMap (namesUnder entries)
  | _ => []

namespace Switch

open Build Draft Lambda

variable {users codes : List String} {d : Draft}

/-- The keys of the automations that every switch may have. -/
def triggerKeys : List String := ["on_turn_on", "on_turn_off"]

/-- What is expected of a mapping if it is to be a switch. -/
structure Describes (set : FieldSet Schema) (type : CppType) : Prop where
  id : FieldSet.find? "id" set.fields = some ⟨"id", .generatedId type, .declareId type⟩
  onTurnOn : FieldSet.find? "on_turn_on" set.fields =
    some ⟨"on_turn_on", .optional, .ofAutomation turnOnTrigger .empty⟩
  onTurnOff : FieldSet.find? "on_turn_off" set.fields =
    some ⟨"on_turn_off", .optional, .ofAutomation turnOffTrigger .empty⟩
  differ : (set.fields.map (·.key)).Nodup
  closed : set.isClosed = true
  declaring : set.declaringKeys = "id" :: triggerKeys

theorem setUp_eq (switch : Cpp.Expr) (node : Node) :
    setUp switch node = (do
      optionally (node.bool? "inverted") fun inverted =>
        Build.evaluate (switch.call "set_inverted" [.bool inverted])
      optionally (node.string? "icon") fun icon => Build.evaluate (switch.call "set_icon" [.string icon])
      Automation.buildUnder "on_turn_on" turnOnTrigger .noArg (triggerOf turnOnTrigger switch) node
      Automation.buildUnder "on_turn_off" turnOffTrigger .noArg (triggerOf turnOffTrigger switch) node) := by
  unfold setUp
  cases node.bool? "inverted" <;> cases node.string? "icon" <;> rfl

theorem usable_call {switch : Cpp.Expr} (usable : d.Usable users switch) {method : String}
    {args : List Cpp.Expr} (each : ∀ arg ∈ args, d.Usable users arg) : d.Usable users (switch.call method args) :=
  usable_append rfl usable each

theorem usable_call_literal {switch literal : Cpp.Expr} (usable : d.Usable users switch) {method : String}
    (none : literal.references = []) : d.Usable users (switch.call method [literal]) := by
  exact usable_call usable (usable_single (usable_of_references_nil none))

theorem usable_triggerOf {switch : Cpp.Expr} (usable : d.Usable users switch) (trigger : CppType) (node : Node) :
    d.Usable users (triggerOf trigger switch node) :=
  usable_of_args rfl (usable_single usable)

variable {set : FieldSet Schema} {kind : CppType} {entries : Entries Value} {path : Path}

theorem yields_setUp (describes : Describes set kind) (sound : d.Sound users)
    (normal : (Schema.fields set).Normal (.map entries)) (within : (Value.map entries).Within users codes)
    (awaits : AwaitsAll users d (triggerKeys.flatMap (namesUnder entries))) {switch : Cpp.Expr}
    (usable : d.Usable users switch) :
    (setUp switch ⟨path, .map entries⟩).Yields d (FaultOf codes)
      fun _ next => Binds users (triggerKeys.flatMap (namesUnder entries)) d next := by
  have names : triggerKeys.flatMap (namesUnder entries) =
      namesUnder entries "on_turn_on" ++ namesUnder entries "on_turn_off" := by
    simp [triggerKeys]
  rw [names] at awaits ⊢
  rw [setUp_eq]
  refine (yields_optionally sound fun inverted _ =>
    yields_evaluate sound (usable_call_literal usable rfl)).bind fun _ first one => ?_
  refine (yields_optionally one.sound fun icon _ =>
    yields_evaluate one.sound (usable_call_literal (one.usable usable) rfl)).bind fun _ second two => ?_
  have before := one.trans two
  refine (Automation.yields_buildUnder (Automation.describes_fieldSet _) before.sound
    (fun value present => normal.entry describes.onTurnOn present) within
    (usable_triggerOf (before.usable usable) _) (awaits.left.right before)).bind fun _ third on => ?_
  have later := before.trans on
  refine (Automation.yields_buildUnder (Automation.describes_fieldSet _) later.sound
    (fun value present => normal.entry describes.onTurnOff present) within
    (usable_triggerOf (later.usable usable) _) (awaits.right later)).mono fun _ last off => ?_
  exact later.trans off

theorem yields_register (describes : Describes set kind) (sound : d.Sound users)
    (normal : (Schema.fields set).Normal (.map entries)) (within : (Value.map entries).Within users codes)
    (awaits : AwaitsAll users d (triggerKeys.flatMap (namesUnder entries))) {switch : Cpp.Expr}
    (usable : d.Usable users switch) :
    (register switch ⟨path, .map entries⟩).Yields d (FaultOf codes)
      fun _ next => Binds users (triggerKeys.flatMap (namesUnder entries)) d next := by
  have call : d.Usable users (Cpp.Expr.app.call "register_switch" [switch]) :=
    usable_call (usable_of_references_nil rfl) (usable_single usable)
  refine (yields_evaluate sound call).bind fun _ next one => ?_
  have more := @yields_setUp users codes next set kind entries path describes one.sound normal within
    (awaits.later one) switch (one.usable usable)
  exact more.mono fun _ last two => one.trans two

section Listed

theorem Describes.ids (describes : Describes set kind) (normal : (Schema.fields set).Normal (.map entries))
    (distinct : Entries.Distinct entries) :
    ∃ id, Entries.get? "id" entries = some (.id id) ∧ id.role ≠ .used ∧
      (Value.map entries).declaredNames.Perm (id.ownNames ++ triggerKeys.flatMap (namesUnder entries)) := by
  obtain ⟨value, present, own⟩ := normal.needed describes.id rfl
  obtain ⟨id, rfl, admits⟩ := own.exists_declared
  have names := normal.declaredNames_perm distinct describes.differ describes.closed
  rw [describes.declaring, List.flatMap_cons, namesUnder_id present] at names
  exact ⟨id, present, admits.not_used, names⟩

theorem yields_require {fails : CompileError → Prop} {key : String} {value : Value}
    (present : Entries.get? key entries = some value) :
    (require ⟨path, .map entries⟩ key).Yields d fails fun node next => node = ⟨path.key key, value⟩ ∧ next = d := by
  rw [require, Node.get?_of_present present]
  exact yields_pure ⟨rfl, rfl⟩

theorem yields_requireId {fails : CompileError → Prop} {id : ObjectId} (node : Node)
    (present : Entries.get? "id" entries = some (.id id)) :
    (requireId node ⟨path, .map entries⟩).Yields d fails fun found next => found = id ∧ next = d := by
  rw [requireId, Node.id?_of_present present]
  exact yields_pure ⟨rfl, rfl⟩

variable {items : List Value}

theorem declaredNames_perm_items (describes : Describes set kind)
    (normal : ∀ item ∈ items, (Schema.fields set).Normal item)
    (within : ∀ item ∈ items, item.Within users codes) :
    (items.flatMap Value.declaredNames).Perm
      (items.flatMap (namesAt ["id"]) ++ items.flatMap (namesAt triggerKeys)) := by
  refine List.Perm.trans ?_ (List.flatMap_append_perm items (namesAt ["id"]) (namesAt triggerKeys)).symm
  refine List.Perm.flatMap_left _ fun item member => ?_
  obtain ⟨entries, rfl⟩ := (normal item member).exists_map
  have names := (normal _ member).declaredNames_perm (within _ member).distinct describes.differ
    describes.closed
  rw [describes.declaring] at names
  rw [namesAt, List.flatMap_singleton]
  exact names

theorem yields_retrieve (describes : Describes set kind) {fails : CompileError → Prop}
    (normal : ∀ item ∈ items, (Schema.fields set).Normal item) (sound : d.Sound users) {constructor : Cpp.Expr}
    (usable : d.Usable users constructor) (awaits : AwaitsAll users d (items.flatMap (namesAt ["id"])))
    (node : Node) (path : Path) (position number : Nat) :
    (retrieve node constructor number (Node.itemsFrom path position items)).Yields d fails fun pairs next =>
      Binds users (items.flatMap (namesAt ["id"])) d next ∧
        pairs.map (·.2) = Node.itemsFrom path position items ∧ ∀ pair ∈ pairs, next.Usable users pair.1 := by
  induction items generalizing d position number with
  | nil => exact yields_pure ⟨.refl sound, rfl, fun _ member => nomatch member⟩
  | cons item rest ih =>
    obtain ⟨entries, rfl⟩ := (normal item (List.mem_cons_self ..)).exists_map
    obtain ⟨value, present, own⟩ := (normal _ (List.mem_cons_self ..)).needed describes.id rfl
    obtain ⟨id, rfl, admits⟩ := own.exists_declared
    have names : namesAt ["id"] (.map entries) = id.ownNames := by
      rw [namesAt, List.flatMap_singleton, namesUnder_id present]
    rw [List.flatMap_cons, names] at awaits ⊢
    rw [Node.itemsFrom, retrieve]
    have definition := @usable_call_literal users d constructor (.int (Int64.ofNat number)) usable "get_switch" rfl
    refine (yields_requireId node present).bind fun found first held => ?_
    obtain ⟨rfl, rfl⟩ := held
    refine (yields_bindGlobal sound admits.not_used awaits.left definition none).bind fun symbol second bound => ?_
    obtain ⟨binds, mention⟩ := bound
    -- a switch stays usable while those after it are bound
    refine (ih (fun other member => normal other (List.mem_cons_of_mem _ member)) binds.sound
      (binds.usable usable) (awaits.right binds) (position + 1) (number + 1)).bind fun others last rest => ?_
    obtain ⟨more, nodes, usableToo⟩ := rest
    apply yields_pure
    refine ⟨binds.trans more, congrArg (List.cons _) nodes, fun pair member => ?_⟩
    rcases List.mem_cons.mp member with rfl | inRest
    · exact more.usable mention
    · exact usableToo pair inRest

theorem registerAll_cons (switch : Cpp.Expr) (entry : Node) (rest : List (Cpp.Expr × Node)) :
    registerAll ((switch, entry) :: rest) = (do
      optionally (entry.string? "name") fun name => Build.evaluate (switch.call "set_name" [.string name])
      register switch entry
      registerAll rest) := by
  rw [registerAll]
  cases entry.string? "name" <;> rfl

theorem yields_registerAll (describes : Describes set kind)
    (normal : ∀ item ∈ items, (Schema.fields set).Normal item)
    (within : ∀ item ∈ items, item.Within users codes) (sound : d.Sound users)
    {pairs : List (Cpp.Expr × Node)} {path : Path} {position : Nat}
    (nodes : pairs.map (·.2) = Node.itemsFrom path position items)
    (usable : ∀ pair ∈ pairs, d.Usable users pair.1)
    (awaits : AwaitsAll users d (items.flatMap (namesAt triggerKeys))) :
    (registerAll pairs).Yields d (FaultOf codes) fun _ next =>
      Binds users (items.flatMap (namesAt triggerKeys)) d next := by
  induction items generalizing d position pairs with
  | nil =>
    obtain rfl : pairs = [] := List.map_eq_nil_iff.mp nodes
    exact yields_pure (.refl sound)
  | cons item rest ih =>
    cases pairs with
    | nil => cases nodes
    | cons pair others =>
      obtain ⟨switch, entry⟩ := pair
      obtain ⟨rfl, nodesToo⟩ := List.cons.inj nodes
      have own := normal item (List.mem_cons_self ..)
      have inside := within item (List.mem_cons_self ..)
      obtain ⟨entries, rfl⟩ := own.exists_map
      have usableSwitch := usable (switch, _) (List.mem_cons_self ..)
      rw [List.flatMap_cons] at awaits ⊢
      rw [registerAll_cons]
      refine (yields_optionally sound fun name _ =>
        yields_evaluate sound (usable_call_literal usableSwitch rfl)).bind fun _ first one => ?_
      refine (yields_register describes one.sound own inside (awaits.left.later one)
        (one.usable usableSwitch)).bind fun _ second two => ?_
      have whole := one.trans two
      refine (ih (fun other member => normal other (List.mem_cons_of_mem _ member))
        (fun other member => within other (List.mem_cons_of_mem _ member)) whole.sound nodesToo
        (fun pair member => whole.usable (usable pair (List.mem_cons_of_mem _ member)))
        (awaits.right whole)).mono fun _ last three => ?_
      exact whole.trans three

end Listed

section Platforms

/-- The fields of an entry of the section for this platform. -/
def Platform.entryFields (platform : Platform) : FieldSet Schema :=
  (FieldSet.empty.required "platform" .string).extend platform.fields

theorem describes_fields : Describes fields type := by
  have differ : ["id", "name", "icon", "inverted", "on_turn_on", "on_turn_off"].Nodup := by decide
  exact ⟨rfl, rfl, rfl, differ, rfl, rfl⟩

theorem describes_template : Describes (Platform.entryFields .template) templateType := by
  have differ : ["platform", "id", "name", "icon", "inverted", "on_turn_on", "on_turn_off", "lambda",
    "optimistic", "turn_on_action", "turn_off_action"].Nodup := by decide
  exact ⟨rfl, rfl, rfl, differ, rfl, rfl⟩

theorem yields_lambdaAhead {code : String} (known : code ∈ codes) (result : Option CppType) :
    ((⟨path, .lambda code⟩ : Node).lambdaAhead [] result).Yields d (FaultOf codes) fun pending next =>
      next = { d with symbols := d.symbols.add pending.symbol } ∧
        pending.symbol.name ∉ d.symbols.names ∧ pending.symbol.binding = .inline ∧
        ∃ lambda, Lambda.read code = .ok lambda ∧ lambda.body = pending.body :=
  Lambda.yields_declare known path [] result

theorem yields_defineAhead {pending : Pending} (sound : d.Sound users)
    (free : pending.symbol.name ∉ d.symbols.names) (inline : pending.symbol.binding = .inline) {code : String}
    {lambda : Lambda} (known : code ∈ codes) (whole : Lambda.read code = .ok lambda)
    (body : lambda.body = pending.body) {names : List String} {next : Draft}
    (binds : Binds users names { d with symbols := d.symbols.add pending.symbol } next)
    (own : ∀ name ∈ names, name ∈ users) :
    pending.define.Yields next (FaultOf codes) fun _ last =>
      Binds users names d last ∧ ∀ e, next.Usable users e → last.Usable users e := by
  have held := Symbols.find?_add free pending.symbol.name
  rw [if_pos rfl] at held
  have notUser : pending.symbol.name ∉ users := by
    intro member
    obtain ⟨found, declared, -⟩ := sound.declared _ member
    exact free (Symbols.mem_names_of_find? declared)
  obtain ⟨found, heldToo, undefined, stays⟩ := binds.exists_placeholder ⟨_, held, inline⟩ ⟨_, held, rfl⟩
    notUser fun member => notUser (own _ member)
  refine (yields_define binds.sound heldToo undefined stays known whole body).mono
    fun _ last ⟨defines, _, _⟩ => ⟨Binds.of_add free ?_, fun e => defines.usable⟩
  -- the name of the placeholder was free before, so it does not count among those that waited
  exact (binds.trans defines).congr fun name => List.perm_append_singleton _ _ |>.mem_iff

/-- The fields of a custom switch, without and with the key that tells its platform. -/
def customSets : List (FieldSet Schema) := [customFields, Platform.entryFields .custom]

theorem exists_customFields (own : set ∈ customSets) (normal : (Schema.fields set).Normal (.map entries)) :
    ∃ code id items, Entries.get? "lambda" entries = some (.lambda code) ∧
      Entries.get? "id" entries = some (.id id) ∧ Entries.get? "switches" entries = some (.list items) ∧
      id.role ≠ .used ∧ ∀ item ∈ items, (Schema.fields fields).Normal item := by
  have either : set = customFields ∨ set = Platform.entryFields .custom :=
    (List.mem_cons.mp own).imp_right List.mem_singleton.mp
  have lambdaField : FieldSet.find? "lambda" set.fields = some ⟨"lambda", .required, .lambda⟩ := by
    rcases either with rfl | rfl <;> rfl
  have idField : FieldSet.find? "id" set.fields =
      some ⟨"id", .generatedId customType, .declareId customType⟩ := by
    rcases either with rfl | rfl <;> rfl
  have switchesField : FieldSet.find? "switches" set.fields =
      some ⟨"switches", .required, .oneOrMany (.fields fields)⟩ := by
    rcases either with rfl | rfl <;> rfl
  obtain ⟨_, heldLambda, lambdaNormal⟩ := normal.needed lambdaField rfl
  obtain ⟨_, heldId, idNormal⟩ := normal.needed idField rfl
  obtain ⟨_, heldSwitches, switchesNormal⟩ := normal.needed switchesField rfl
  obtain ⟨code, rfl⟩ := lambdaNormal.exists_lambda
  obtain ⟨id, rfl, admits⟩ := idNormal.exists_declared
  obtain ⟨items, rfl, each⟩ := switchesNormal.exists_list
  exact ⟨code, id, items, heldLambda, heldId, heldSwitches, admits.not_used, each⟩

theorem declaringKeys_custom : (Platform.entryFields .custom).declaringKeys = ["id", "switches"] := rfl

theorem nodup_customKeys : ((Platform.entryFields .custom).fields.map (·.key)).Nodup := by
  have differ : ["platform", "id", "lambda", "switches"].Nodup := by decide
  exact differ

theorem exists_customParts (normal : (Schema.fields (Platform.entryFields .custom)).Normal (.map entries))
    (within : (Value.map entries).Within users codes) :
    ∃ code id items, Entries.get? "lambda" entries = some (.lambda code) ∧
      Entries.get? "id" entries = some (.id id) ∧ Entries.get? "switches" entries = some (.list items) ∧
      id.role ≠ .used ∧ (∀ item ∈ items, (Schema.fields fields).Normal item) ∧
      (Value.map entries).declaredNames.Perm
        (id.ownNames ++ (items.flatMap (namesAt ["id"]) ++ items.flatMap (namesAt triggerKeys))) := by
  obtain ⟨code, id, items, heldLambda, heldId, heldSwitches, object, each⟩ :=
    exists_customFields (List.mem_cons_of_mem _ List.mem_cons_self) normal
  have inside : ∀ item ∈ items, item.Within users codes :=
    fun item member => (within.under heldSwitches).item member
  have listed : namesUnder entries "switches" = items.flatMap Value.declaredNames := by
    rw [namesUnder, heldSwitches, Option.map_some, Option.getD_some, Value.declaredNames_list]
  have names := normal.declaredNames_perm within.distinct nodup_customKeys rfl
  rw [declaringKeys_custom, List.flatMap_cons, List.flatMap_singleton, namesUnder_id heldId, listed] at names
  have parts := declaredNames_perm_items describes_fields each inside
  exact ⟨code, id, items, heldLambda, heldId, heldSwitches, object, each, names.trans (parts.append_left _)⟩

/-- The constructor is bound while its lambda waits for its body; then the lambda is defined, and the
    switches are bound and set up. -/
theorem yields_buildCustom (sound : d.Sound users)
    (normal : (Schema.fields (Platform.entryFields .custom)).Normal (.map entries))
    (within : (Value.map entries).Within users codes)
    (awaits : AwaitsAll users d (Value.map entries).declaredNames) :
    (buildCustom ⟨path, .map entries⟩).Yields d (FaultOf codes)
      fun _ next => Binds users (Value.map entries).declaredNames d next := by
  obtain ⟨code, id, items, heldLambda, heldId, heldSwitches, object, each, names⟩ :=
    exists_customParts normal within
  have inside : ∀ item ∈ items, item.Within users codes :=
    fun item member => (within.under heldSwitches).item member
  replace awaits := awaits.perm names
  rw [buildCustom]
  refine (yields_require heldLambda).bind fun lambdaNode _ ⟨sameLambda, rfl⟩ => ?_
  refine (yields_requireId _ heldId).bind fun found _ ⟨sameId, rfl⟩ => ?_
  refine (yields_require heldSwitches).bind fun switches start ⟨sameSwitches, unchanged⟩ => ?_
  subst sameLambda sameId sameSwitches unchanged
  refine (yields_lambdaAhead (within.under heldLambda).code_mem _).bind
    fun pending first ⟨same, free, inline, lambda, whole, body⟩ => ?_
  subst same
  have added := sound.add free (by rw [inline]; decide)
  have held := Symbols.find?_add free pending.symbol.name
  rw [if_pos rfl] at held
  have waits : (start.symbols.add pending.symbol).IsInline pending.symbol.name := ⟨_, held, inline⟩
  have placeholder : Usable users { start with symbols := start.symbols.add pending.symbol }
      (.allocate customType [pending.reference]) :=
    usable_of_args rfl (usable_single (usable_reference_of_inline waits))
  -- while the constructor is bound, its lambda is a placeholder, which statements may mention
  refine (yields_bindGlobal added object (awaits.add free).left placeholder none).bind
    fun symbol second ⟨binds, mention⟩ => ?_
  refine (yields_defineAhead sound free inline (within.under heldLambda).code_mem whole body binds
    awaits.left.known).bind fun _ third ⟨bound, still⟩ => ?_
  have usable := still _ mention
  refine (yields_retrieve describes_fields each bound.sound usable (awaits.right bound).left _ _ 0 0).bind
    fun pairs fourth ⟨retrieved, nodes, usableToo⟩ => ?_
  refine (yields_registerAll describes_fields each inside retrieved.sound nodes usableToo
    ((awaits.right bound).right retrieved)).bind fun _ fifth registered => ?_
  refine (yields_addFlag registered.sound _).mono fun _ last flagged => ?_
  have all := (bound.trans (retrieved.trans registered)).trans flagged
  exact all.congr fun name => by rw [List.append_nil, names.mem_iff]

theorem buildTemplate_eq (node : Node) :
    buildTemplate node = (do
      let id ← requireId node node
      let definition := Automation.register
        (.allocate templateType [.string ((node.string? "name").getD "")])
      let symbol ← Build.bindGlobal id definition none
      register (.reference symbol) node
      optionally (node.get? "lambda") fun lambda => do
        let state ← lambda.compileLambda [] (some (CppType.optional .bool))
        Build.evaluate ((Cpp.Expr.reference symbol).call "set_state_lambda" [state])
      optionally (node.bool? "optimistic") fun optimistic =>
        Build.evaluate ((Cpp.Expr.reference symbol).call "set_optimistic" [.bool optimistic])
      connectActions "turn_on_action" "get_turn_on_trigger" (.reference symbol) node
      connectActions "turn_off_action" "get_turn_off_trigger" (.reference symbol) node
      Build.addFlag "-DUSE_TEMPLATE_SWITCH") := by
  unfold buildTemplate
  cases node.get? "lambda" <;> cases node.bool? "optimistic" <;> simp [optionally]

theorem yields_connectActions (sound : d.Sound users) {key trigger : String} {switch : Cpp.Expr}
    (normal : ∀ value, Entries.get? key entries = some value → Schema.Normal Schema.actions value)
    (within : (Value.map entries).Within users codes) (usable : d.Usable users switch) :
    (connectActions key trigger switch ⟨path, .map entries⟩).Yields d (FaultOf codes)
      fun _ next => Binds users [] d next := by
  rw [connectActions]
  cases present : Entries.get? key entries with
  | none =>
    rw [Node.get?_of_absent present]
    exact yields_pure (.refl sound)
  | some value =>
    rw [Node.get?_of_present present]
    have start : d.Usable users (switch.call trigger []) := usable_call usable fun _ member => nomatch member
    exact (Automation.yields_ofActions sound start (normal value present) (within.under present)).bind
      fun _ next binds => yields_pure binds

theorem yields_stateLambda (sound : d.Sound users)
    (normal : ∀ value, Entries.get? "lambda" entries = some value → Schema.Normal .lambda value)
    (within : (Value.map entries).Within users codes) {switch : Cpp.Expr} (usable : d.Usable users switch) :
    (optionally ((⟨path, .map entries⟩ : Node).get? "lambda") fun lambda => do
      let state ← lambda.compileLambda [] (some (CppType.optional .bool))
      Build.evaluate (switch.call "set_state_lambda" [state])).Yields d (FaultOf codes)
      fun _ next => Binds users [] d next := by
  cases present : Entries.get? "lambda" entries with
  | none =>
    rw [Node.get?_of_absent present]
    exact yields_pure (.refl sound)
  | some value =>
    obtain ⟨code, rfl⟩ := (normal value present).exists_lambda
    rw [Node.get?_of_present present]
    refine (Automation.yields_compileLambda sound (within.under present).code_mem _ _).bind
      fun state next ⟨made, usableState⟩ => ?_
    have call : next.Usable users (switch.call "set_state_lambda" [state]) :=
      usable_call (made.usable usable) (usable_single usableState)
    exact (yields_evaluate made.sound call).mono fun _ last evaluated => made.trans evaluated

theorem yields_buildTemplate (sound : d.Sound users)
    (normal : (Schema.fields (Platform.entryFields .template)).Normal (.map entries))
    (within : (Value.map entries).Within users codes)
    (awaits : AwaitsAll users d (Value.map entries).declaredNames) :
    (buildTemplate ⟨path, .map entries⟩).Yields d (FaultOf codes)
      fun _ next => Binds users (Value.map entries).declaredNames d next := by
  have lambdaField : FieldSet.find? "lambda" (Platform.entryFields .template).fields =
      some ⟨"lambda", .optional, .lambda⟩ := rfl
  have onField : FieldSet.find? "turn_on_action" (Platform.entryFields .template).fields =
      some ⟨"turn_on_action", .optional, Schema.actions⟩ := rfl
  have offField : FieldSet.find? "turn_off_action" (Platform.entryFields .template).fields =
      some ⟨"turn_off_action", .optional, Schema.actions⟩ := rfl
  obtain ⟨id, present, object, names⟩ := describes_template.ids normal within.distinct
  replace awaits := awaits.perm names
  have definition (name : String) :
      d.Usable users (Automation.register (.allocate templateType [.string name])) :=
    usable_of_references_nil rfl
  rw [buildTemplate_eq]
  refine (yields_requireId _ present).bind fun found start ⟨sameId, same⟩ => ?_
  subst sameId same
  refine (yields_bindGlobal sound object awaits.left (definition _) none).bind
    fun symbol first ⟨bound, mention⟩ => ?_
  refine (yields_register describes_template bound.sound normal within (awaits.right bound) mention).bind
    fun _ second registered => ?_
  have mentionSecond := registered.usable mention
  refine (yields_stateLambda registered.sound (fun value held => normal.entry lambdaField held) within
    mentionSecond).bind fun _ third three => ?_
  have mentionThird := three.usable mentionSecond
  refine (yields_optionally three.sound fun optimistic _ =>
    yields_evaluate three.sound (usable_call_literal mentionThird rfl)).bind fun _ fourth four => ?_
  have mentionFourth := four.usable mentionThird
  refine (yields_connectActions four.sound (fun value held => normal.entry onField held) within
    mentionFourth).bind fun _ fifth five => ?_
  refine (yields_connectActions five.sound (fun value held => normal.entry offField held) within
    (five.usable mentionFourth)).bind fun _ sixth six => ?_
  refine (yields_addFlag six.sound _).mono fun _ last flagged => ?_
  have all := (bound.trans registered).trans ((three.trans four).trans ((five.trans six).trans flagged))
  exact all.congr fun name => by rw [names.mem_iff]; simp

theorem yields_platform (platform : Platform) (sound : d.Sound users)
    (normal : (Schema.fields platform.entryFields).Normal (.map entries))
    (within : (Value.map entries).Within users codes)
    (awaits : AwaitsAll users d (Value.map entries).declaredNames) :
    (platform.build ⟨path, .map entries⟩).Yields d (FaultOf codes)
      fun _ next => Binds users (Value.map entries).declaredNames d next := by
  cases platform with
  | custom => exact yields_buildCustom sound normal within awaits
  | template => exact yields_buildTemplate sound normal within awaits

end Platforms

section Entries

/-- What is expected of an entry of the section. -/
def entrySchema : Schema :=
  .dispatch "platform" (Platform.all.map fun platform => (platform.name, platform.entryFields))

theorem exists_platform {value : Value} (normal : entrySchema.Normal value) :
    ∃ platform entries, value = .map entries ∧
      Entries.get? "platform" entries = some (.string (Platform.name platform)) ∧
      (Schema.fields platform.entryFields).Normal (.map entries) := by
  obtain ⟨entries, selector, set, rfl, present, chosen, own⟩ := normal.dispatched
  obtain ⟨platform, -, same⟩ := List.mem_map.mp (Entries.mem_of_get? chosen)
  obtain ⟨name, rfl⟩ := Prod.mk.inj same
  have field : FieldSet.find? "platform" platform.entryFields.fields =
      some ⟨"platform", .required, .string⟩ := by cases platform <;> rfl
  obtain ⟨text, rfl⟩ := (own.entry field present).exists_string
  have written : platform.name = text := name
  exact ⟨platform, entries, rfl, written ▸ present, own⟩

theorem yields_buildEntry (sound : d.Sound users) {value : Value} (normal : entrySchema.Normal value)
    (within : value.Within users codes) (awaits : AwaitsAll users d value.declaredNames) :
    (buildEntry ⟨path, value⟩).Yields d (FaultOf codes) fun _ next => Binds users value.declaredNames d next := by
  obtain ⟨platform, entries, rfl, present, own⟩ := exists_platform normal
  have known : Platform.ofName? platform.name = some platform := by cases platform <;> rfl
  rw [buildEntry]
  simp only [Node.string?_of_present present, Option.getD_some, known]
  refine (yields_enter sound _).bind fun _ first entered => ?_
  refine (yields_addFlag entered.sound _).bind fun _ second flagged => ?_
  have before := entered.trans flagged
  exact (yields_platform platform before.sound own within (awaits.later before)).mono
    fun _ last built => before.trans built

theorem yields_buildEntries {items : List Value} (normal : ∀ item ∈ items, entrySchema.Normal item)
    (within : ∀ item ∈ items, item.Within users codes) (sound : d.Sound users)
    (awaits : AwaitsAll users d (items.flatMap Value.declaredNames)) (position : Nat) :
    (buildEntries (Node.itemsFrom path position items)).Yields d (FaultOf codes)
      fun _ next => Binds users (items.flatMap Value.declaredNames) d next := by
  induction items generalizing d position with
  | nil => exact yields_pure (.refl sound)
  | cons item rest ih =>
    rw [List.flatMap_cons] at awaits ⊢
    rw [Node.itemsFrom, buildEntries]
    refine (yields_buildEntry sound (normal item (List.mem_cons_self ..)) (within item (List.mem_cons_self ..))
      awaits.left).bind fun _ next first => ?_
    exact (ih (fun other member => normal other (List.mem_cons_of_mem _ member))
      (fun other member => within other (List.mem_cons_of_mem _ member)) first.sound (awaits.right first)
      (position + 1)).mono fun _ last others => first.trans others

theorem yields_buildSection (sound : d.Sound users) {value : Value} (normal : sectionSchema.Normal value)
    (within : value.Within users codes) (awaits : AwaitsAll users d value.declaredNames) :
    (buildSection ⟨path, value⟩).Yields d (FaultOf codes)
      fun _ next => Binds users value.declaredNames d next := by
  obtain ⟨items, rfl, each⟩ := normal.exists_list
  rw [Value.declaredNames_list] at awaits ⊢
  exact yields_buildEntries each (fun item member => within.item member) sound awaits 0

end Entries

end Switch

end DeviceConfig
