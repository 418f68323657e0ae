import DeviceConfig.Proofs.Assembly.Automations
import DeviceConfig.Proofs.Generation.Switches

/-!
The section `switch` compiles the lambdas of its switches and those in their automations.
-/

namespace DeviceConfig

theorem Value.within_ids {value : Value} (differ : value.keysDiffer = true) :
    value.Within (value.ids.map (·.name)) value.lambdas :=
  ⟨fun _ member => member, fun _ member _ => List.mem_map_of_mem member, differ⟩

namespace Switch

open Build Draft

variable {users : List String} {d : Draft} {set : FieldSet Schema} {kind : CppType} {entries : Entries Value}
  {path : Path} {switch : Cpp.Expr} {items : List Value}

theorem compiles_optionally (tidy : d.Tidy users) {α : Type} {option : Option α} {step : α → Build Unit}
    (each : ∀ a, option = some a → Ensures (step a) d fun _ next => Compiles users [] d next) :
    Ensures (optionally option step) d fun _ next => Compiles users [] d next := by
  cases option with
  | none => exact yields_pure (.refl tidy)
  | some a => exact each a rfl

theorem serves_triggerOf (serves : d.Serves switch) {trigger : CppType} (known : trigger.Known) (node : Node) :
    d.Serves (triggerOf trigger switch node) := serves_allocate known (serves_single serves)

theorem compiles_setUp (describes : Describes set kind) (tidy : d.Tidy users)
    (normal : (Schema.fields set).Normal (.map entries)) (suits : (Value.map entries).Suits users)
    (serves : d.Serves switch) :
    Ensures (setUp switch ⟨path, .map entries⟩) d
      fun _ next => Compiles users (triggerKeys.flatMap (codeUnder entries)) d next := by
  rw [setUp_eq]
  refine (compiles_optionally tidy fun inverted _ =>
    compiles_evaluate tidy (serves_call_literal serves rfl rfl rfl)).bind fun _ first one => ?_
  refine (compiles_optionally one.tidy fun icon _ =>
    compiles_evaluate one.tidy (serves_call_literal (one.serves serves) rfl rfl rfl)).bind fun _ second two => ?_
  have before := one.trans two
  refine (Automation.compiles_buildUnder (Automation.describes_fieldSet _) rfl before.tidy
    (fun value present => normal.entry describes.onTurnOn present) suits
    (serves_triggerOf (before.serves serves) (by decide)) (by decide) (by decide)).bind fun _ third on => ?_
  have later := before.trans on
  refine (Automation.compiles_buildUnder (Automation.describes_fieldSet _) rfl later.tidy
    (fun value present => normal.entry describes.onTurnOff present) suits
    (serves_triggerOf (later.serves serves) (by decide)) (by decide) (by decide)).mono fun _ last off => ?_
  exact (later.trans off).perm (by simp [triggerKeys])

theorem compiles_register (describes : Describes set kind) (tidy : d.Tidy users)
    (normal : (Schema.fields set).Normal (.map entries)) (suits : (Value.map entries).Suits users)
    (serves : d.Serves switch) :
    Ensures (register switch ⟨path, .map entries⟩) d
      fun _ next => Compiles users (triggerKeys.flatMap (codeUnder entries)) d next := by
  have call : d.Serves (Cpp.Expr.app.call "register_switch" [switch]) :=
    serves_call (serves_of_nil rfl rfl rfl) (serves_single serves)
  refine (compiles_evaluate tidy call).bind fun _ next one => ?_
  exact (compiles_setUp describes one.tidy normal suits (one.serves serves)).mono fun _ last two => one.trans two

theorem compiles_retrieve (describes : Describes set kind)
    (normal : ∀ item ∈ items, (Schema.fields set).Normal item) (suits : ∀ item ∈ items, item.Suits users)
    (tidy : d.Tidy users) {constructor : Cpp.Expr} (serves : d.Serves constructor) (node : Node) (path : Path)
    (position number : Nat) :
    Ensures (retrieve node constructor number (Node.itemsFrom path position items)) d fun pairs next =>
      Compiles users [] d next ∧ pairs.map (·.2) = Node.itemsFrom path position items ∧
        ∀ pair ∈ pairs, next.Serves pair.1 := by
  induction items generalizing d position number with
  | nil => exact yields_pure ⟨.refl tidy, rfl, List.forall_mem_nil _⟩
  | cons item rest ih =>
    obtain ⟨entries, rfl⟩ := (normal item List.mem_cons_self).exists_map
    obtain ⟨value, present, own⟩ := (normal _ List.mem_cons_self).needed describes.id rfl
    obtain ⟨id, rfl, admits⟩ := own.exists_declared
    have inside := suits _ List.mem_cons_self
    rw [Node.itemsFrom, retrieve]
    refine (yields_requireId node present).bind fun found first read => ?_
    obtain ⟨rfl, rfl⟩ := read
    have definition : first.Serves (constructor.call "get_switch" [.int (Int64.ofNat number)]) :=
      serves_call_literal serves rfl rfl rfl
    refine (compiles_bindGlobal tidy (inside.id present admits.not_used) admits.not_used definition
      known_of_none).bind fun symbol second both => ?_
    obtain ⟨bound, mention⟩ := both
    -- a switch stays usable while those after it are bound
    refine (ih (fun other member => normal other (List.mem_cons_of_mem _ member))
      (fun other member => suits other (List.mem_cons_of_mem _ member)) bound.tidy (bound.serves serves)
      (position + 1) (number + 1)).bind fun others last result => yields_pure ?_
    obtain ⟨more, nodes, servesToo⟩ := result
    refine ⟨bound.trans more, congrArg (List.cons _) nodes, fun pair member => ?_⟩
    rcases List.mem_cons.mp member with rfl | inRest
    · exact more.serves mention
    · exact servesToo pair inRest

theorem compiles_registerAll (describes : Describes set kind) (code : set.codeKeys = triggerKeys)
    (normal : ∀ item ∈ items, (Schema.fields set).Normal item) (suits : ∀ item ∈ items, item.Suits users)
    (tidy : d.Tidy users) {pairs : List (Cpp.Expr × Node)} {path : Path} {position : Nat}
    (nodes : pairs.map (·.2) = Node.itemsFrom path position items) (serves : ∀ pair ∈ pairs, d.Serves pair.1) :
    Ensures (registerAll pairs) d fun _ next => Compiles users (items.flatMap Value.lambdas) d next := by
  induction items generalizing d position pairs with
  | nil =>
    obtain rfl : pairs = [] := List.map_eq_nil_iff.mp nodes
    exact yields_pure (.refl tidy)
  | cons item rest ih =>
    cases pairs with
    | nil => cases nodes
    | cons pair others =>
      obtain ⟨switch, entry⟩ := pair
      obtain ⟨rfl, nodesToo⟩ := List.cons.inj nodes
      have own := normal item List.mem_cons_self
      have inside := suits item List.mem_cons_self
      obtain ⟨entries, rfl⟩ := own.exists_map
      have mention : d.Serves switch := serves (switch, _) List.mem_cons_self
      have lambdas := own.lambdas_perm inside.distinct describes.differ describes.closed
      rw [code] at lambdas
      rw [registerAll_cons]
      refine (compiles_optionally tidy fun name _ =>
        compiles_evaluate tidy (serves_call_literal mention rfl rfl rfl)).bind fun _ first one => ?_
      refine (compiles_register describes one.tidy own inside (one.serves mention)).bind fun _ second two => ?_
      have whole := one.trans two
      refine (ih (fun other member => normal other (List.mem_cons_of_mem _ member))
        (fun other member => suits other (List.mem_cons_of_mem _ member)) whole.tidy nodesToo
        fun pair member => whole.serves (serves pair (List.mem_cons_of_mem _ member))).mono fun _ last three => ?_
      rw [List.flatMap_cons]
      exact (whole.trans three).perm (lambdas.symm.append_right _)

section Custom

/-- The constructor is bound while its lambda waits for its body; what follows may use it. -/
theorem ensures_constructor (tidy : d.Tidy users) {code : String} {result : Option CppType}
    (known : ∀ type ∈ result, type.Known) {id : ObjectId} (suits : id.Suits users) (object : id.role ≠ .used)
    {rest : Cpp.Symbol → Build Unit} {holds : Unit → Draft → Prop}
    (follows : ∀ symbol next, Compiles users [code] d next → next.Serves (.reference symbol) →
      Ensures (rest symbol) next holds) :
    Ensures (do
      let pending ← (⟨path, .lambda code⟩ : Node).lambdaAhead [] result
      let symbol ← Build.bindGlobal id (.allocate customType [pending.reference]) none
      let _ ← pending.define
      rest symbol) d holds := by
  refine (Lambda.ensures_declare known).bind fun pending first ⟨same, free, awaits⟩ => ?_
  subst same
  have ahead := extends_declareLambda tidy free awaits
  have knows : Draft.Knows { d with symbols := d.symbols.add pending.symbol } pending.symbol :=
    ⟨⟨pending.symbol, none, d.symbols.component⟩, List.mem_append_right _ List.mem_cons_self, rfl, rfl⟩
  have fits : ∀ arg, Draft.Fits { d with symbols := d.symbols.add pending.symbol } arg
      (.allocate customType [pending.reference]) :=
    fun arg => fits_allocate (fun _ => by decide) (fits_single (fits_reference knows))
  have used : (Cpp.Expr.allocate customType [pending.reference]).uses = [pending.symbol.name] :=
    Cpp.uses_allocate_inline customType awaits.inline
  refine (extends_bindGlobal ahead.tidy suits object fits known_of_none).bind
    fun symbol second ⟨bound, mention⟩ => ?_
  have waits := ahead.trans bound
  rw [used] at waits
  refine (compiles_defineLambda awaits waits).bind fun _ third ⟨compiled, still⟩ => ?_
  exact follows symbol third compiled (mention.mono still)

theorem compiles_buildCustom (tidy : d.Tidy users)
    (normal : (Schema.fields (Platform.entryFields .custom)).Normal (.map entries))
    (suits : (Value.map entries).Suits users) :
    Ensures (buildCustom ⟨path, .map entries⟩) d fun _ next =>
      Compiles users (Value.map entries).lambdas d next := by
  obtain ⟨code, id, items, heldLambda, heldId, heldSwitches, object, each, -⟩ :=
    exists_customParts normal (Value.within_ids suits.differ)
  have keys : (Platform.entryFields .custom).codeKeys = ["lambda", "switches"] := rfl
  have lambdas := normal.lambdas_perm suits.distinct (by decide) rfl
  rw [keys, List.flatMap_cons, List.flatMap_singleton, codeUnder, codeUnder, gatherUnder_of_present heldLambda,
    gatherUnder_of_present heldSwitches, Value.lambdas_list] at lambdas
  have known : ∀ type ∈ some Switch.type.pointer.stdVector, type.Known := by
    intro type member
    obtain rfl := Option.mem_some_iff.mp member
    decide
  have inside : ∀ item ∈ items, item.Suits users := fun item member => (suits.under heldSwitches).item member
  rw [buildCustom]
  refine (yields_require heldLambda).bind fun lambdaNode _ read => ?_
  obtain ⟨rfl, rfl⟩ := read
  refine (yields_requireId _ heldId).bind fun found _ read => ?_
  obtain ⟨rfl, rfl⟩ := read
  refine (yields_require heldSwitches).bind fun switches start read => ?_
  obtain ⟨rfl, rfl⟩ := read
  refine ensures_constructor tidy known (suits.id heldId object) object fun symbol second compiled mention => ?_
  refine (compiles_retrieve describes_fields each inside compiled.tidy mention _ _ 0 0).bind
    fun pairs third result => ?_
  obtain ⟨retrieved, nodes, serves⟩ := result
  refine (compiles_registerAll describes_fields rfl each inside retrieved.tidy nodes serves).bind
    fun _ fourth registered => ?_
  refine (compiles_addFlag registered.tidy _).mono fun _ last flagged => ?_
  have all := (compiled.trans (retrieved.trans registered)).trans flagged
  rw [List.append_nil, List.nil_append] at all
  exact all.perm lambdas.symm

end Custom

section Template

theorem compiles_connectActions (tidy : d.Tidy users) {key trigger : String}
    (normal : ∀ value, Entries.get? key entries = some value → Schema.Normal Schema.actions value)
    (suits : (Value.map entries).Suits users) (serves : d.Serves switch) :
    Ensures (connectActions key trigger switch ⟨path, .map entries⟩) d
      fun _ next => Compiles users (codeUnder entries key) d next := by
  rw [connectActions]
  cases present : Entries.get? key entries with
  | none =>
    rw [Node.get?_of_absent present, codeUnder, gatherUnder_of_absent present]
    exact yields_pure (.refl tidy)
  | some value =>
    rw [Node.get?_of_present present, codeUnder, gatherUnder_of_present present]
    have start : d.Serves (switch.call trigger []) := serves_call serves (List.forall_mem_nil _)
    exact (Automation.compiles_ofActions tidy start (by decide) (normal value present)
      (suits.under present).differ).bind fun _ next compiles => yields_pure compiles

theorem compiles_stateLambda (tidy : d.Tidy users)
    (normal : ∀ value, Entries.get? "lambda" entries = some value → Schema.Normal .lambda value)
    (serves : d.Serves switch) :
    Ensures (optionally ((⟨path, .map entries⟩ : Node).get? "lambda") fun lambda => do
      let state ← lambda.compileLambda [] (some (CppType.optional .bool))
      Build.evaluate (switch.call "set_state_lambda" [state])) d
      fun _ next => Compiles users (codeUnder entries "lambda") d next := by
  cases present : Entries.get? "lambda" entries with
  | none =>
    rw [Node.get?_of_absent present, codeUnder, gatherUnder_of_absent present]
    exact yields_pure (.refl tidy)
  | some value =>
    obtain ⟨code, rfl⟩ := (normal value present).exists_lambda
    rw [Node.get?_of_present present, codeUnder, gatherUnder_of_present present]
    have known : ∀ type ∈ some (CppType.optional .bool), type.Known := by
      intro type member
      obtain rfl := Option.mem_some_iff.mp member
      decide
    exact compiles_use tidy known serves "set_state_lambda"

theorem compiles_buildTemplate (tidy : d.Tidy users)
    (normal : (Schema.fields (Platform.entryFields .template)).Normal (.map entries))
    (suits : (Value.map entries).Suits users) :
    Ensures (buildTemplate ⟨path, .map entries⟩) d
      fun _ next => Compiles users (Value.map entries).lambdas d next := by
  have lambdaField : FieldSet.find? "lambda" (Platform.entryFields .template).fields =
      some ⟨"lambda", .optional, .lambda⟩ := rfl
  have onField : FieldSet.find? "turn_on_action" (Platform.entryFields .template).fields =
      some ⟨"turn_on_action", .optional, Schema.actions⟩ := rfl
  have offField : FieldSet.find? "turn_off_action" (Platform.entryFields .template).fields =
      some ⟨"turn_off_action", .optional, Schema.actions⟩ := rfl
  have keys : (Platform.entryFields .template).codeKeys =
      ["on_turn_on", "on_turn_off", "lambda", "turn_on_action", "turn_off_action"] := rfl
  obtain ⟨id, present, object, -⟩ := describes_template.ids normal suits.distinct
  have lambdas := normal.lambdas_perm suits.distinct describes_template.differ describes_template.closed
  rw [keys] at lambdas
  have definition (name : String) : d.Serves (Automation.register (.allocate templateType [.string name])) :=
    serves_register (serves_allocate (by decide) (serves_single (serves_of_nil rfl rfl rfl)))
  rw [buildTemplate_eq]
  refine (yields_requireId _ present).bind fun found start ⟨sameId, same⟩ => ?_
  subst sameId same
  refine (compiles_bindGlobal tidy (suits.id present object) object (definition _) known_of_none).bind
    fun symbol first ⟨bound, mention⟩ => ?_
  refine (compiles_register describes_template bound.tidy normal suits mention).bind
    fun _ second registered => ?_
  have mentionSecond := registered.serves mention
  refine (compiles_stateLambda registered.tidy (fun value held => normal.entry lambdaField held)
    mentionSecond).bind fun _ third three => ?_
  have mentionThird := three.serves mentionSecond
  refine (compiles_optionally three.tidy fun optimistic _ =>
    compiles_evaluate three.tidy (serves_call_literal mentionThird rfl rfl rfl)).bind fun _ fourth four => ?_
  have mentionFourth := four.serves mentionThird
  refine (compiles_connectActions four.tidy (fun value held => normal.entry onField held) suits
    mentionFourth).bind fun _ fifth five => ?_
  refine (compiles_connectActions five.tidy (fun value held => normal.entry offField held) suits
    (five.serves mentionFourth)).bind fun _ sixth six => ?_
  refine (compiles_addFlag six.tidy _).mono fun _ last flagged => ?_
  have all := (bound.trans registered).trans ((three.trans four).trans ((five.trans six).trans flagged))
  refine all.perm (List.Perm.trans ?_ lambdas.symm)
  simp [triggerKeys]

end Template

section Entries

theorem compiles_buildEntry (tidy : d.Tidy users) {value : Value} (normal : entrySchema.Normal value)
    (suits : value.Suits users) :
    Ensures (buildEntry ⟨path, value⟩) d fun _ next => Compiles users value.lambdas d next := by
  obtain ⟨platform, entries, rfl, present, own⟩ := exists_platform normal
  have known : Platform.ofName? platform.name = some platform := by cases platform <;> rfl
  have build {next : Draft} (tidy : next.Tidy users) : Ensures (platform.build ⟨path, .map entries⟩) next
      fun _ last => Compiles users (Value.map entries).lambdas next last := by
    cases platform with
    | custom => exact compiles_buildCustom tidy own suits
    | template => exact compiles_buildTemplate tidy own suits
  rw [buildEntry]
  simp only [Node.string?_of_present present, Option.getD_some, known]
  refine (compiles_enter tidy _).bind fun _ first entered => ?_
  refine (compiles_addFlag entered.tidy _).bind fun _ second flagged => ?_
  have before := entered.trans flagged
  exact (build before.tidy).mono fun _ last built => before.trans built

theorem compiles_buildEntries (normal : ∀ item ∈ items, entrySchema.Normal item)
    (suits : ∀ item ∈ items, item.Suits users) (tidy : d.Tidy users) (position : Nat) :
    Ensures (buildEntries (Node.itemsFrom path position items)) d
      fun _ next => Compiles users (items.flatMap Value.lambdas) d next := by
  induction items generalizing d position with
  | nil => exact yields_pure (.refl tidy)
  | cons item rest ih =>
    rw [Node.itemsFrom, buildEntries, List.flatMap_cons]
    refine (compiles_buildEntry tidy (normal item List.mem_cons_self) (suits item List.mem_cons_self)).bind
      fun _ next first => ?_
    exact (ih (fun other member => normal other (List.mem_cons_of_mem _ member))
      (fun other member => suits other (List.mem_cons_of_mem _ member)) first.tidy (position + 1)).mono
      fun _ last others => first.trans others

theorem compiles_buildSection (tidy : d.Tidy users) {value : Value} (normal : sectionSchema.Normal value)
    (suits : value.Suits users) :
    Ensures (buildSection ⟨path, value⟩) d fun _ next => Compiles users value.lambdas d next := by
  obtain ⟨items, rfl, each⟩ := normal.exists_list
  rw [Value.lambdas_list]
  exact compiles_buildEntries each (fun item member => suits.item member) tidy 0

end Entries

end Switch

end DeviceConfig
