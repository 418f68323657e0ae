import DeviceConfig.Proofs.Assembly.Vocabulary
import DeviceConfig.Proofs.Schema.Recursion

/-!
The statements of a switch that a lambda makes (`Switch.custom_in_order`): its constructor, then all switches out of
it by their positions, and only then what registers each of them and sets it up.
-/

namespace DeviceConfig.Switch

open Build Draft Automation

/-- The switch at a position of the constructor. -/
def retrieval (constructor : Cpp.Symbol) (position : Nat) : Cpp.Expr :=
  (Cpp.Expr.reference constructor).call "get_switch" [.int (Int64.ofNat position)]

/-- Binds the switch to the one at the position that stands with it. -/
def retrieves (constructor : Cpp.Symbol) (placed : Cpp.Symbol × Nat) : Cpp.Statement :=
  .bind placed.1 (retrieval constructor placed.2)

/-- The statements of the options that every switch may have. -/
def options (switch : Cpp.Expr) (entry : Node) : List Cpp.Statement :=
  ((entry.bool? "inverted").map fun inverted => .run (switch.call "set_inverted" [.bool inverted])).toList ++
    ((entry.string? "icon").map fun icon => .run (switch.call "set_icon" [.string icon])).toList

/-- The statements of the automations under a key, each of which has a trigger of this type on the switch. -/
def AreTriggered (switch : Cpp.Expr) (trigger : CppType) (entries : List Node) (statements : List Cpp.Statement) :
    Prop :=
  ∃ blocks, statements = blocks.flatten ∧
    List.Forall₂ (fun _ block => IsAutomation .noArg (.allocate trigger [switch]) block) entries blocks

/-- The statements that name a switch, register it and set it up. -/
def IsRegistration (switch : Cpp.Expr) (entry : Node) (block : List Cpp.Statement) : Prop :=
  ∃ name on off, entry.string? "name" = some name ∧
    AreTriggered switch turnOnTrigger (entry.itemsUnder "on_turn_on") on ∧
    AreTriggered switch turnOffTrigger (entry.itemsUnder "on_turn_off") off ∧
    block = .run (switch.call "set_name" [.string name]) ::
      .run (Cpp.Expr.app.call "register_switch" [switch]) :: (options switch entry ++ on ++ off)

variable {d next : Draft} {constructor : Cpp.Symbol} {position : Nat}

section Registration

variable {switch : Cpp.Expr} {entry : Node}

theorem appends_optionally {α : Type} (option : Option α) (expression : α → Cpp.Expr) :
    (optionally option fun a => evaluate (expression a)).Appends fun _ added =>
      added = (option.map fun a => Cpp.Statement.run (expression a)).toList := by
  cases option with
  | none => exact appends_pure rfl
  | some a => exact appends_evaluate _

theorem appends_setUp (switch : Cpp.Expr) (entry : Node) :
    (setUp switch entry).Appends fun _ added => ∃ on off,
      AreTriggered switch turnOnTrigger (entry.itemsUnder "on_turn_on") on ∧
      AreTriggered switch turnOffTrigger (entry.itemsUnder "on_turn_off") off ∧
      added = options switch entry ++ on ++ off := by
  rw [setUp_eq]
  refine (appends_optionally (entry.bool? "inverted") _).bind fun _ inverted first => ?_
  refine (appends_optionally (entry.string? "icon") _).bind fun _ icon second => ?_
  refine (appends_buildUnder "on_turn_on" _ entry).bind fun _ on third => ?_
  refine (appends_buildUnder "on_turn_off" _ entry).mono fun _ off fourth => ?_
  refine ⟨on, off, third, fourth, ?_⟩
  rw [first, second, options, List.append_assoc, List.append_assoc]

/-- The methods that the statements of one switch call. -/
def ownVocabulary : List String :=
  ["set_name", "register_switch", "set_inverted", "set_icon", "make_automation"] ++ vocabulary

theorem AreTriggered.spoken {trigger : CppType} {entries : List Node} {statements : List Cpp.Statement}
    (triggered : AreTriggered switch trigger entries statements) (plain : switch.methods = []) :
    ∀ statement ∈ statements, ∀ method ∈ statement.methods, method ∈ ownVocabulary := by
  obtain ⟨blocks, rfl, each⟩ := triggered
  intro statement member method called
  obtain ⟨block, inside, here⟩ := List.mem_flatten.mp member
  obtain ⟨entry, -, start, automation, actions, spoken, rfl⟩ := exists_mem_left_of_forall₂ each inside
  rcases List.mem_cons.mp here with rfl | here
  · rw [Cpp.Statement.methods, Cpp.Expr.methods, Cpp.argMethods_eq_nil (Cpp.arePlain_single plain)] at called
    cases called
  · rcases List.mem_cons.mp here with rfl | inActions
    · exact List.mem_singleton.mp called ▸ by decide
    · exact List.mem_append_right _ (spoken statement inActions method called)

theorem spoken_options (plain : switch.methods = []) (entry : Node) :
    ∀ statement ∈ options switch entry, ∀ method ∈ statement.methods, method ∈ ownVocabulary := by
  have called (name : String) (literal : Cpp.Literal) :
      (Cpp.Statement.run (switch.call name [.literal literal])).methods = [name] :=
    Cpp.methods_call name plain (Cpp.arePlain_single rfl)
  intro statement member method inside
  rcases List.mem_append.mp member with first | second
  · obtain ⟨inverted, -, rfl⟩ := Option.map_eq_some_iff.mp (Option.mem_toList.mp first)
    rw [Cpp.Expr.bool, called] at inside
    exact List.mem_singleton.mp inside ▸ by decide
  · obtain ⟨icon, -, rfl⟩ := Option.map_eq_some_iff.mp (Option.mem_toList.mp second)
    rw [Cpp.Expr.string, called] at inside
    exact List.mem_singleton.mp inside ▸ by decide

theorem IsRegistration.spoken {block : List Cpp.Statement} (registration : IsRegistration switch entry block)
    (plain : switch.methods = []) :
    ∀ statement ∈ block, ∀ method ∈ statement.methods, method ∈ ownVocabulary := by
  obtain ⟨name, on, off, -, onParts, offParts, rfl⟩ := registration
  have named := Cpp.methods_call "set_name" plain (Cpp.arePlain_single (rfl : (Cpp.Expr.string name).methods = []))
  have registered := Cpp.methods_call "register_switch" (rfl : Cpp.Expr.app.methods = []) (Cpp.arePlain_single plain)
  refine List.forall_mem_cons.mpr ⟨?_, List.forall_mem_cons.mpr ⟨?_, fun statement member => ?_⟩⟩
  · rw [Cpp.Statement.methods, named]
    decide
  · rw [Cpp.Statement.methods, registered]
    decide
  · rcases List.mem_append.mp member with before | inOff
    · exact (List.mem_append.mp before).elim (spoken_options plain entry statement)
        (onParts.spoken plain statement)
    · exact offParts.spoken plain statement inOff

theorem appends_registerAll (pairs : List (Cpp.Expr × Node))
    (named : ∀ pair ∈ pairs, ∃ name, pair.2.string? "name" = some name) :
    (registerAll pairs).Appends fun _ added => ∃ blocks, added = blocks.flatten ∧
      List.Forall₂ (fun pair block => IsRegistration pair.1 pair.2 block) pairs blocks := by
  induction pairs with
  | nil => exact appends_pure ⟨[], rfl, .nil⟩
  | cons pair rest ih =>
    obtain ⟨switch, entry⟩ := pair
    obtain ⟨name, written⟩ := named (switch, entry) List.mem_cons_self
    rw [registerAll_cons, register]
    refine (appends_optionally (entry.string? "name") _).bind fun _ first called => ?_
    rw [bind_assoc]
    refine (appends_evaluate _).bind fun _ second registered => ?_
    refine (appends_setUp switch entry).bind fun _ third parts => ?_
    refine (ih fun other member => named other (List.mem_cons_of_mem _ member)).mono fun _ last others => ?_
    obtain ⟨on, off, onParts, offParts, rfl⟩ := parts
    obtain ⟨blocks, rfl, each⟩ := others
    rw [called, registered, written]
    exact ⟨_ :: blocks, by simp, .cons ⟨name, on, off, written, onParts, offParts, rfl⟩ each⟩

end Registration

section Retrieval

/-- Each entry's identifier stands for the switch at its position. -/
def AreRetrieved (d next : Draft) (constructor : Cpp.Symbol) (entries : List Node) (placed : List (Cpp.Symbol × Nat)) :
    Prop :=
  List.Forall₂ (fun entry pair => ∃ id, entry.id? "id" = some id ∧
    Identifies d next id pair.1 (retrieval constructor pair.2)) entries placed

theorem ensures_retrieve (node : Node) (constructor : Cpp.Symbol) (position : Nat) (entries : List Node) :
    Ensures (retrieve node (.reference constructor) position entries) d fun pairs next => ∃ switches : List Cpp.Symbol,
      pairs = (switches.map Cpp.Expr.reference).zip entries ∧ d.symbols.Grows next.symbols ∧
      next.statements = d.statements ++ (switches.zipIdx position).map (retrieves constructor) ∧
      (switches.map (·.name)).Nodup ∧ (∀ switch ∈ switches, ¬d.symbols.IsDefined switch.name) ∧
      AreRetrieved d next constructor entries (switches.zipIdx position) := by
  induction entries generalizing d position with
  | nil =>
    exact yields_pure ⟨[], rfl, .refl _, (List.append_nil _).symm, List.nodup_nil, List.forall_mem_nil _, .nil⟩
  | cons entry rest ih =>
    rw [retrieve, requireId]
    cases present : entry.id? "id" with
    | none => exact yields_bind (yields_throw trivial)
    | some id =>
      rw [pure_bind]
      refine (identifies_bindGlobal id _).bind fun switch mid bound => ?_
      obtain ⟨grows, statements, undefined, identifies⟩ := bound
      refine (ih (position + 1)).bind fun others last retrieved => yields_pure ?_
      obtain ⟨switches, rfl, growsToo, statementsToo, differ, undefinedToo, each⟩ := retrieved
      refine ⟨switch :: switches, rfl, grows.trans growsToo, ?_, ?_, ?_, ?_⟩
      · rw [statementsToo, statements, List.append_assoc]
        rfl
      · refine List.nodup_cons.mpr ⟨fun member => ?_, differ⟩
        obtain ⟨other, inside, same⟩ := List.mem_map.mp member
        exact undefinedToo other inside (same ▸ identifies.isDefined)
      · refine List.forall_mem_cons.mpr ⟨undefined, fun other inside defined => ?_⟩
        exact undefinedToo other inside (grows.isDefined defined)
      · refine .cons ⟨id, present, identifies.later growsToo⟩ (each.imp fun _ _ identified => ?_)
        obtain ⟨own, held, later⟩ := identified
        exact ⟨own, held, later.since grows⟩

end Retrieval

section Custom

/-- What building a custom switch appends, and what the identifiers of the constructor and of its switches stand for
    afterwards. -/
structure IsAssembled (node : Node) (d next : Draft) (constructor lambda : Cpp.Symbol) (switches : List Cpp.Symbol)
    (blocks : List (List Cpp.Statement)) : Prop where
  statements : next.statements = d.statements ++ .bind constructor (.allocate customType [.reference lambda]) ::
    (switches.zipIdx.map (retrieves constructor) ++ blocks.flatten)
  /-- The lambda has its body, which may mention the switches. -/
  compiled : next.symbols.IsDefined lambda.name
  differ : ((constructor :: switches).map (·.name)).Nodup
  constructed : ∃ id, node.id? "id" = some id ∧
    Identifies d next id constructor (.allocate customType [.reference lambda])
  retrieved : AreRetrieved d next constructor (node.itemsUnder "switches") switches.zipIdx
  /-- Each switch has one block, which is its own. -/
  registered : List.Forall₂ (fun pair block => IsRegistration (.reference pair.1) pair.2 block)
    (switches.zip (node.itemsUnder "switches")) blocks
  finished : ∀ block ∈ blocks, ∀ statement ∈ block, "get_switch" ∉ statement.methods

theorem defines_lambda (pending : Lambda.Pending) :
    Ensures pending.define d fun _ next => next.symbols.IsDefined pending.symbol.name := by
  refine (appends_ofSymbols _ d).bind fun body mid _ => ?_
  rw [define, bind_assoc]
  refine yields_bind ?_
  cases read : mid.symbols.define pending.symbol (.lambda "=" pending.parameters pending.result body) with
  | error e => exact yields_ofSymbols_error read trivial
  | ok symbols =>
    obtain ⟨found, -, -, now⟩ := Symbols.find?_define read
    exact yields_ofSymbols read (yields_bind (yields_setSymbols (yields_pure ⟨_, now, rfl⟩)))

theorem named_of_normal {items : List Value} (each : ∀ item ∈ items, (Schema.fields fields).Normal item) (path : Path)
    (position : Nat) :
    ∀ entry ∈ Node.itemsFrom path position items, ∃ name, entry.string? "name" = some name := by
  have nameField : FieldSet.find? "name" fields.fields = some ⟨"name", .required, .string⟩ := rfl
  induction items generalizing position with
  | nil => exact List.forall_mem_nil _
  | cons item rest ih =>
    refine List.forall_mem_cons.mpr ⟨?_, ih (fun other member => each other (List.mem_cons_of_mem _ member)) _⟩
    obtain ⟨entries, rfl⟩ := (each item List.mem_cons_self).exists_map
    obtain ⟨value, held, normal⟩ := (each _ List.mem_cons_self).needed nameField rfl
    obtain ⟨name, rfl⟩ := normal.exists_string
    exact ⟨name, Node.string?_of_present held⟩

theorem ensures_buildCustom {set : FieldSet Schema} (own : set ∈ customSets) {entries : Entries Value} {path : Path}
    (normal : (Schema.fields set).Normal (.map entries)) :
    Ensures (buildCustom ⟨path, .map entries⟩) d fun _ next => ∃ constructor lambda switches blocks,
      IsAssembled ⟨path, .map entries⟩ d next constructor lambda switches blocks := by
  obtain ⟨code, id, items, heldLambda, heldId, heldSwitches, -, each⟩ := exists_customFields own normal
  rw [buildCustom]
  refine (yields_require heldLambda).bind fun lambda _ read => ?_
  obtain ⟨rfl, rfl⟩ := read
  refine (yields_requireId _ heldId).bind fun found _ read => ?_
  obtain ⟨rfl, rfl⟩ := read
  refine (yields_require heldSwitches).bind fun list start read => ?_
  obtain ⟨rfl, rfl⟩ := read
  refine (appends_lambdaAhead _ _ _ start).bind fun pending first ahead => ?_
  obtain ⟨growsFirst, _, sameFirst, rfl⟩ := ahead
  refine (identifies_bindGlobal found _).bind fun constructor second bound => ?_
  obtain ⟨growsSecond, sameSecond, -, constructed⟩ := bound
  refine ((appends_defineLambda pending second).and (defines_lambda pending)).bind fun _ third defined => ?_
  obtain ⟨⟨growsThird, _, sameThird, -, rfl⟩, compiled⟩ := defined
  refine (ensures_retrieve _ constructor 0 _).bind fun pairs fourth retrieved => ?_
  obtain ⟨switches, rfl, growsFourth, sameFourth, differ, undefined, identified⟩ := retrieved
  have named : ∀ pair ∈ (switches.map Cpp.Expr.reference).zip (Node.items ⟨path.key "switches", .list items⟩),
      ∃ name, pair.2.string? "name" = some name :=
    fun pair member => named_of_normal each _ 0 pair.2 (List.of_mem_zip member).2
  refine (appends_registerAll _ named fourth).bind fun _ fifth registered => ?_
  obtain ⟨growsFifth, _, sameFifth, blocks, rfl, registered⟩ := registered
  refine yields_modify ?_
  have listed : (⟨path, .map entries⟩ : Node).itemsUnder "switches" =
      Node.items ⟨path.key "switches", .list items⟩ := by
    rw [Node.itemsUnder, Node.get?_of_present heldSwitches]
    rfl
  have later := growsThird.trans (growsFourth.trans growsFifth)
  have blockwise : List.Forall₂ (fun pair block => IsRegistration (.reference pair.1) pair.2 block)
      (switches.zip (Node.items ⟨path.key "switches", .list items⟩)) blocks := by
    rwa [List.zip_map_left, List.forall₂_map_left_iff] at registered
  refine ⟨constructor, pending.symbol, switches, blocks, ?_, (growsFourth.trans growsFifth).isDefined compiled,
    List.nodup_cons.mpr ⟨fun member => ?_, differ⟩,
    ⟨found, Node.id?_of_present heldId, (constructed.since growsFirst).later later⟩, ?_, listed ▸ blockwise,
    fun block member statement inside called => ?_⟩
  · show fifth.statements = _
    rw [sameFifth, sameFourth, sameThird, sameSecond, sameFirst]
    simp [Lambda.Pending.reference]
  · obtain ⟨switch, inside, same⟩ := List.mem_map.mp member
    exact undefined switch inside (same ▸ growsThird.isDefined constructed.isDefined)
  · have before := growsFirst.trans (growsSecond.trans growsThird)
    rw [listed]
    refine identified.imp fun _ _ own => ?_
    obtain ⟨id, held, identifies⟩ := own
    exact ⟨id, held, (identifies.since before).later growsFifth⟩
  · obtain ⟨pair, -, registration⟩ := exists_mem_left_of_forall₂ blockwise member
    have spoken := registration.spoken rfl statement inside _ called
    exact absurd spoken (by decide)

/-- A custom switch is built in three stages: the constructor is bound, then every switch by its position in the
    constructor, and then each switch is named, registered and set up, which takes no switch out of a constructor
    any more. The entry may be any that a check gives; once its identifiers have got their names, it is accepted as it
    is, and so it is among these. -/
theorem custom_in_order {set : FieldSet Schema} (own : set ∈ customSets) {node : Node} {value : Value} {path : Path}
    {d next : Draft} (accepted : (Schema.fields set).check node = .ok value)
    (built : (buildCustom ⟨path, value⟩).apply d = (.ok (), next)) :
    ∃ constructor lambda switches blocks, IsAssembled ⟨path, value⟩ d next constructor lambda switches blocks := by
  have stable : (Schema.fields set).everywhere Schema.isStable = true := by
    rcases List.mem_cons.mp own with rfl | last
    · rfl
    · exact List.mem_singleton.mp last ▸ rfl
  have normal : (Schema.fields set).Normal value := Schema.normal_of_check stable accepted
  obtain ⟨entries, rfl⟩ := normal.exists_map
  exact ensures_iff.mp (ensures_buildCustom own normal) () next built

/-- Two lights, the first of which switches the other one. -/
def lights : Value := .map [
  ("platform", .string "custom"),
  ("lambda", .string "return \x7bnew Light(), new Light()\x7d;"),
  ("switches", .list [
    .map [("name", .string "Left"), ("on_turn_on", .map [("switch.toggle", .string "right")])],
    .map [("name", .string "Right"), ("id", .string "right"), ("inverted", .bool true)]])]

/-- The lights as their check leaves them. -/
def checkedLights : Value := .map [
  ("platform", .string "custom"),
  ("lambda", .lambda "return \x7bnew Light(), new Light()\x7d;"),
  ("switches", .list [
    .map [("name", .string "Left"),
      ("on_turn_on", .list [.map [
        ("then", .list [.map [("switch.toggle", .map [("id", .id (.used "right" type))])]]),
        ("trigger_id", .id (.generated turnOnTrigger)),
        ("automation_id", .id (.generated Automation.type))]]),
      ("id", .id (.generated type))],
    .map [("name", .string "Right"), ("id", .id (.declared "right" type)), ("inverted", .bool true)]]),
  ("id", .id (.generated customType))]

theorem custom_in_order_lights :
    let paths : BuildFolders := ⟨"/config", "/config/dev"⟩
    Platform.entryFields .custom ∈ customSets ∧
    (Schema.fields (Platform.entryFields .custom)).check (.atRoot lights) = .ok checkedLights ∧
    ∃ next constructor lambda switches blocks,
      (buildCustom (.atRoot checkedLights)).apply (.start paths) = (.ok (), next) ∧
      IsAssembled (.atRoot checkedLights) (.start paths) next constructor lambda switches blocks ∧
      boundNames next.statements = ["switch__customswitchconstructor", "switch__switch", "right",
        "switch__switchturnontrigger", "automation", "switch__toggleaction"] := by
  intro paths
  have own : Platform.entryFields .custom ∈ customSets := List.mem_cons_of_mem _ List.mem_cons_self
  have accepted : (Schema.fields (Platform.entryFields .custom)).check (.atRoot lights) = .ok checkedLights := rfl
  obtain ⟨⟨⟩, next, built⟩ := exists_apply_of_isOk
    (by decide +kernel : ((buildCustom (.atRoot checkedLights)).apply (.start paths)).1.isOk)
  obtain ⟨constructor, lambda, switches, blocks, assembled⟩ := custom_in_order own accepted built
  refine ⟨own, accepted, next, constructor, lambda, switches, blocks, built, assembled, ?_⟩
  have bound : boundNames ((buildCustom (.atRoot checkedLights)).apply (.start paths)).2.statements =
      ["switch__customswitchconstructor", "switch__switch", "right", "switch__switchturnontrigger", "automation",
        "switch__toggleaction"] := by
    decide +kernel
  rwa [built] at bound

end Custom

end DeviceConfig.Switch
