import DeviceConfig.Proofs.Assembly.Steps
import DeviceConfig.Proofs.Generation.Closed
import DeviceConfig.Proofs.Generation.Switches
import DeviceConfig.Proofs.Objects.Allotment

/-!
The steps that a program is built with, and what each of them binds objects for (`Build.BindsFor`). Building
actions binds none (`Build.isClosed_bindsFor`).
-/

namespace DeviceConfig

theorem isObject_objectTypes : ∀ type ∈ objectTypes, type.isObject = true := by decide

theorem not_isObject_templates : ∀ template ∈ Automation.templates, (CppType.named template).isObject = false := by
  decide

namespace Draft

variable {d next : Draft}

section Changes

variable {changed found : Declaration} {added : Addition}

/-- Nothing but what the program needs besides its code changes. -/
theorem passes_keep (declarations : next.symbols.declarations = d.symbols.declarations)
    (aliases : next.symbols.aliases = d.symbols.aliases) (statements : next.statements = d.statements) :
    d.Passes next := by
  refine ⟨⟨aliases, fun name member => ?_, fun name object => ?_⟩, fun name member => .inl ?_, by rw [statements]⟩
  · rwa [Symbols.names, declarations]
  · rwa [IsObject, Symbols.find?, declarations]
  · rwa [Symbols.names, declarations] at member

theorem retains_plus (added : Addition) : d.Retains (d.plus added) := by
  refine ⟨rfl, fun name member => ?_, fun name ⟨found, held, object⟩ => ?_⟩
  · rw [names_plus]
    exact List.mem_append_left _ member
  · exact ⟨found, Symbols.find?_extend held _, object⟩

theorem objectSymbols_plus (added : Addition) :
    objectSymbols (d.plus added).statements = objectSymbols d.statements ++ objectSymbols added.statements :=
  objectSymbols_append _ _

theorem passes_plus (parts : ∀ name ∈ added.names, Cpp.IsPartName name) (none : objectSymbols added.statements = []) :
    d.Passes (d.plus added) := by
  refine ⟨retains_plus added, fun name member => ?_, ?_⟩
  · rw [names_plus] at member
    exact (List.mem_append.mp member).imp_right (parts name)
  · rw [objectSymbols_plus, none, List.append_nil]

theorem retains_replace (held : d.symbols.find? changed.symbol.name = some found)
    (object : found.symbol.type.isObject = true → changed.symbol.type.isObject = true)
    (statements : List Cpp.Statement) :
    d.Retains { d with symbols := d.symbols.replace changed, statements := statements } := by
  refine ⟨rfl, fun name member => ?_, fun name ⟨own, heldToo, ownObject⟩ => ?_⟩
  · rwa [Symbols.names_replace]
  · rw [IsObject, Symbols.find?_replace]
    by_cases here : name = changed.symbol.name
    · subst here
      cases held.symm.trans heldToo
      rw [if_pos rfl, heldToo]
      exact ⟨changed, rfl, object ownObject⟩
    · rw [if_neg here]
      exact ⟨own, heldToo, ownObject⟩

end Changes

end Draft

namespace Build

open Draft

variable {α β : Type} {d : Draft} {users : List String} {origin : Origin} {origins others : List Origin}

section Passing

theorem passes_ofSymbols (read : Symbols → Except CompileError α) :
    Ensures (ofSymbols read) d fun _ next => d.Passes next := by
  cases given : read d.symbols with
  | error e => exact yields_ofSymbols_error given trivial
  | ok a => exact yields_ofSymbols given (.refl d)

theorem passes_evaluate (e : Cpp.Expr) : Ensures (evaluate e) d fun _ next => d.Passes next :=
  yields_of_apply (apply_evaluate d e) (passes_plus (List.forall_mem_nil _) rfl)

theorem passes_nameLambda : Ensures (declare "lambda" Lambda.type .inline) d fun _ next => d.Passes next := by
  let symbol := (d.symbols.declare "lambda" Lambda.type .inline).1
  have part : Cpp.IsPartName symbol.name := Cpp.isPartName_fresh List.mem_cons_self _
  have whole : { d with symbols := d.symbols.add symbol } = d.plus ⟨[⟨symbol, none, d.symbols.component⟩], []⟩ := by
    rw [Draft.plus, List.append_nil]
    rfl
  refine yields_of_apply (apply_declareNew d _ _ _) ?_
  rw [whole]
  exact passes_plus (fun name member => List.mem_singleton.mp member ▸ part) rfl

theorem passes_define (symbol : Cpp.Symbol) (definition : Cpp.Expr) :
    Ensures (define symbol definition) d fun _ next => d.Passes next := by
  rw [define]
  cases read : d.symbols.define symbol definition with
  | error e => exact yields_bind (yields_ofSymbols_error read trivial)
  | ok next =>
    obtain ⟨found, held, -, rfl⟩ := Symbols.define_eq_ok_iff.mp read
    have own : d.symbols.find? found.symbol.name = some found := by rw [Symbols.name_of_find? held, held]
    let changed : Declaration := { found with definition := some definition }
    have retains := @retains_replace d changed found own id d.statements
    refine yields_bind (yields_ofSymbols read (yields_setSymbols ⟨retains, fun name member => ?_, rfl⟩))
    rw [Symbols.names_replace] at member
    exact .inl member

theorem passes_bindNew {template : String} (arg : CppType) (definition : Cpp.Expr)
    (listed : template ∈ Automation.templates) :
    Ensures (Automation.bindNew template arg definition) d fun _ next => d.Passes next := by
  refine yields_of_apply (apply_bindNew d template arg definition) (passes_plus (fun name member => ?_) ?_)
  · rw [List.mem_singleton.mp member]
    exact Cpp.isPartName_fresh (List.mem_cons_of_mem _ (List.mem_map_of_mem listed)) _
  · have other : (Automation.instantiate template arg).isObject = false := not_isObject_templates template listed
    simp [objectSymbols, Cpp.Statement.bound?, Symbols.declare, other]

end Passing

/-- The step binds objects for these, in this order, and for no others. -/
def BindsFor (users : List String) (origins : List Origin) (step : Build α) : Prop :=
  (∀ id ∈ configuredIds origins, id.IsSettled users) → ∀ d : Draft, d.Leads users →
    Ensures step d fun _ next => ∃ pairs, pairs.map (·.1) = origins ∧ d.Allots pairs next

theorem bindsFor_of_passes {step : Build α} (passes : ∀ d : Draft, Ensures step d fun _ next => d.Passes next) :
    BindsFor users [] step :=
  fun _ d _ => (passes d).mono fun _ _ none => ⟨[], rfl, .nil none⟩

theorem bindsFor_pure (a : α) : BindsFor users [] (pure a : Build α) :=
  bindsFor_of_passes fun d => yields_pure (.refl d)

theorem bindsFor_throw (e : CompileError) : BindsFor users origins (throw e : Build α) :=
  fun _ _ _ => yields_throw trivial

theorem bindsFor_lacking (node : Node) (lack : Lack) : BindsFor users origins (lacking node lack : Build α) :=
  bindsFor_throw _

theorem bindsFor_throw_bind (e : CompileError) {next : α → Build β} :
    BindsFor users origins ((throw e : Build α) >>= next) :=
  fun _ _ _ => yields_bind (yields_throw trivial)

theorem ensures_any (step : Build α) (d : Draft) : Ensures step d fun _ _ => True :=
  ensures_iff.mpr fun _ _ _ => trivial

/-- The second step may depend on what the first one gives. -/
theorem BindsFor.bind_of {first : Build α} {next : α → Build β} {gives : α → Prop}
    (binds : BindsFor users origins first) (result : ∀ d, Ensures first d fun a _ => gives a)
    (rest : ∀ a, gives a → BindsFor users others (next a)) : BindsFor users (origins ++ others) (first >>= next) := by
  intro settled d leads
  have parts : configuredIds (origins ++ others) = configuredIds origins ++ configuredIds others :=
    List.filterMap_append
  rw [parts] at settled
  have before := binds (fun id member => settled id (List.mem_append_left _ member)) d leads
  refine (before.and (result d)).bind fun a later both => ?_
  obtain ⟨⟨pairs, same, allots⟩, given⟩ := both
  have after := rest a given (fun id member => settled id (List.mem_append_right _ member)) later
    (allots.retains.leads leads)
  refine after.mono fun _ last ⟨more, sameToo, allotsToo⟩ => ⟨pairs ++ more, ?_, allots.append allotsToo⟩
  rw [List.map_append, same, sameToo]

theorem BindsFor.bind {first : Build α} {next : α → Build β} (binds : BindsFor users origins first)
    (rest : ∀ a, BindsFor users others (next a)) : BindsFor users (origins ++ others) (first >>= next) :=
  binds.bind_of (ensures_any first) fun a _ => rest a

theorem BindsFor.bind_none {first : Build α} {next : α → Build β} (binds : BindsFor users origins first)
    (rest : ∀ a, BindsFor users [] (next a)) : BindsFor users origins (first >>= next) :=
  List.append_nil origins ▸ binds.bind rest

theorem BindsFor.none_bind {first : Build α} {next : α → Build β} (binds : BindsFor users [] first)
    (rest : ∀ a, BindsFor users origins (next a)) : BindsFor users origins (first >>= next) :=
  binds.bind rest

theorem isClosed_bindsFor (users : List String) : IsClosed fun _ => BindsFor users [] where
  pure := bindsFor_pure
  throw := bindsFor_throw
  bind := BindsFor.bind
  ofSymbols read := bindsFor_of_passes fun _ => passes_ofSymbols read
  evaluate e := bindsFor_of_passes fun _ => passes_evaluate e
  nameLambda := bindsFor_of_passes fun _ => passes_nameLambda
  define symbol definition := bindsFor_of_passes fun _ => passes_define symbol definition
  bindNew arg definition listed := bindsFor_of_passes fun _ => passes_bindNew arg definition listed

theorem bindsFor_evaluate (e : Cpp.Expr) : BindsFor users [] (evaluate e) :=
  (isClosed_bindsFor users).evaluate e

theorem bindsFor_modify {change : Draft → Draft}
    (declarations : ∀ d, (change d).symbols.declarations = d.symbols.declarations)
    (aliases : ∀ d, (change d).symbols.aliases = d.symbols.aliases)
    (statements : ∀ d, (change d).statements = d.statements) : BindsFor users [] (modify change) :=
  bindsFor_of_passes fun d => yields_modify (passes_keep (declarations d) (aliases d) (statements d))

theorem bindsFor_enter (component : String) : BindsFor users [] (enter component) :=
  bindsFor_modify (fun _ => rfl) (fun _ => rfl) fun _ => rfl

theorem bindsFor_addFlag (flag : String) : BindsFor users [] (addFlag flag) :=
  bindsFor_modify (fun _ => rfl) (fun _ => rfl) fun _ => rfl

theorem bindsFor_addLibrary (library : String) : BindsFor users [] (addLibrary library) :=
  bindsFor_modify (fun _ => rfl) (fun _ => rfl) fun _ => rfl

theorem bindsFor_addInclude (directive : String) : BindsFor users [] (addInclude directive) :=
  bindsFor_modify (fun _ => rfl) (fun _ => rfl) fun _ => rfl

theorem bindsFor_optionally (option : Option α) {step : α → Build Unit} (each : ∀ a, BindsFor users [] (step a)) :
    BindsFor users [] (optionally option step) := by
  cases option with
  | none => exact bindsFor_pure _
  | some a => exact each a

section Objects

variable {id : ObjectId} {definition : Cpp.Expr} {type : Option CppType}

/-- If the identifier is bound with this type, it is the one of the origin. -/
structure IsFor (origin : Origin) (id : ObjectId) (type : Option CppType) : Prop where
  role : id.role = origin.id.role
  name : id.name = origin.id.name
  type : (type.getD id.type).name = origin.id.type.name

theorem isFor_self (origin : Origin) : IsFor origin origin.id none := ⟨rfl, rfl, rfl⟩

theorem isObject_of_name {type other : CppType} (same : type.name = other.name) (object : other.isObject = true) :
    type.isObject = true := by
  rw [CppType.isObject, same]
  exact object

theorem allot_generated (isFor : IsFor origin id type) (made : id.role = .generated)
    (object : origin.id.type.isObject = true) :
    Ensures (bindGlobal id definition type) d fun symbol next => d.Allot origin symbol next := by
  let symbol := (d.symbols.declare id.name (type.getD id.type) .pointer).1
  have free : symbol.name ∉ d.symbols.names := Symbols.notMem_names_declare _ _ _ _
  let added : Addition := ⟨[⟨symbol, some definition, d.symbols.component⟩], [.bind symbol definition]⟩
  have chosen : origin.Chooses d.symbols.names symbol.name := by
    refine ⟨fun _ => ?_, fun other => absurd (isFor.role.symm.trans made) other⟩
    rw [← isFor.name]
    exact Cpp.isFirstFree_fresh _ _
  have allot : d.Allot origin symbol (d.plus added) := by
    refine ⟨retains_plus added, chosen, fun _ => isFor.type, fun other => ?_, ?_⟩
    · rw [names_plus, List.mem_append, or_comm]
      exact or_congr_left List.mem_singleton
    · have kind : symbol.type.isObject = true := isObject_of_name isFor.type object
      rw [objectSymbols_plus]
      simp [objectSymbols, added, Cpp.Statement.bound?, kind]
  rw [bindGlobal, symbolOf, made]
  refine yields_bind (yields_of_apply (apply_declareNew d _ _ _) (yields_bind ?_))
  exact yields_of_apply (apply_bindAdded d free definition) (yields_pure allot)

theorem allot_declared (isFor : IsFor origin id type) (role : id.role = .declared)
    (leads : Entries.get? id.name d.symbols.aliases = some id.name) (held : d.IsObject id.name)
    (object : origin.id.type.isObject = true) :
    Ensures (bindGlobal id definition type) d fun symbol next => d.Allot origin symbol next := by
  obtain ⟨found, held, kind⟩ := held
  refine (ensures_bindDeclared role leads held definition type).mono fun symbol next both => ?_
  obtain ⟨rfl, rfl⟩ := both
  have own := Symbols.name_of_find? held
  have heldOwn : d.symbols.find? found.symbol.name = some found := by rw [own, held]
  have isObject : (type.getD found.symbol.type).isObject = true := by
    cases type with
    | none => exact kind
    | some given => exact isObject_of_name isFor.type object
  let changed : Declaration := ⟨⟨found.symbol.name, type.getD found.symbol.type, .pointer⟩, some definition,
    found.component⟩
  have retains := @retains_replace d changed found heldOwn fun _ => isObject
  have given : origin.id.role ≠ .generated := by
    rw [← isFor.role, role]
    decide
  refine ⟨retains _, ⟨fun made => absurd made given, fun _ => own.trans isFor.name⟩, fun made => absurd made given,
    fun other => ?_, ?_⟩
  · rw [Symbols.names_replace]
    refine (or_iff_right_of_imp ?_).symm
    rintro rfl
    exact Symbols.mem_names_of_find? heldOwn
  · rw [objectSymbols_append]
    simp [objectSymbols, Cpp.Statement.bound?, isObject]

theorem bindsFor_bindGlobal (isFor : IsFor origin id type) (definition : Cpp.Expr) :
    BindsFor users [origin] (bindGlobal id definition type) := by
  intro settled d leads
  have allot : Ensures (bindGlobal id definition type) d fun symbol next => d.Allot origin symbol next := by
    cases origin with
    | connection => exact allot_generated isFor isFor.role (by decide)
    | configured own =>
      have settled := settled own (mem_configuredIds.mpr (List.mem_singleton_self _))
      have object := isObject_objectTypes _ settled.listed
      cases role : id.role with
      | used => exact absurd (isFor.role.symm.trans role) settled.object
      | generated => exact allot_generated isFor role object
      | declared =>
        obtain ⟨itself, held⟩ := leads own.name (settled.own (isFor.role.symm.trans role))
        have same : id.name = own.name := isFor.name
        rw [← same] at itself held
        exact allot_declared isFor role itself held object
  exact allot.mono fun symbol next one => ⟨[(origin, symbol)], rfl, .cons (.refl d) one (.nil (.refl next))⟩

end Objects

end Build

end DeviceConfig
