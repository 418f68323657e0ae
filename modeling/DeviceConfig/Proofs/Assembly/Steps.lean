import DeviceConfig.Proofs.Assembly.Drafts
import DeviceConfig.Proofs.Value.Parts

/-!
The steps that components are made of, begun with a tidy draft: which lambdas each of them adds
(`Draft.Compiles`).
-/

namespace DeviceConfig

/-- What is expected of an identifier of an object where the user declared the names `users`. -/
structure ObjectId.Suits (users : List String) (id : ObjectId) : Prop where
  type : id.type.Known
  made : id.role = .generated → Cpp.IsGenerated (Cpp.toName id.name)
  own : id.role = .declared → id.name ∈ users

theorem ObjectId.suits_generated {users : List String} {type : CppType} (known : type.Known)
    (member : type.nameHint ∈ Cpp.hints) : (ObjectId.generated type).Suits users :=
  ⟨known, fun _ => ⟨type.nameHint, member, List.prefix_rfl⟩, fun declared => nomatch declared⟩

namespace Value

/-- The objects in a value have suitable identifiers, and no key stands twice in a mapping. -/
structure Suits (users : List String) (value : Value) : Prop where
  ids : ∀ id ∈ value.ids, id.role ≠ .used → id.Suits users
  differ : value.keysDiffer = true

namespace Suits

variable {users : List String}

theorem item {items : List Value} (suits : (Value.list items).Suits users) {item : Value} (member : item ∈ items) :
    item.Suits users := by
  obtain ⟨ids, differ⟩ := suits
  rw [Value.ids_list] at ids
  exact ⟨fun id inside => ids id (List.mem_flatMap.mpr ⟨item, member, inside⟩),
    Value.keysDiffer_list.mp differ item member⟩

theorem entry {entries : Entries Value} (suits : (Value.map entries).Suits users) {entry : String × Value}
    (member : entry ∈ entries) : entry.2.Suits users := by
  obtain ⟨ids, differ⟩ := suits
  rw [Value.ids_map] at ids
  exact ⟨fun id inside => ids id (List.mem_flatMap.mpr ⟨entry, member, inside⟩),
    (Value.keysDiffer_map.mp differ).2 entry member⟩

theorem under {entries : Entries Value} (suits : (Value.map entries).Suits users) {key : String} {value : Value}
    (present : Entries.get? key entries = some value) : value.Suits users :=
  suits.entry (Entries.mem_of_get? present)

theorem distinct {entries : Entries Value} (suits : (Value.map entries).Suits users) : Entries.Distinct entries :=
  (Value.keysDiffer_map.mp suits.differ).1

/-- The identifier of an object under a key. -/
theorem id {entries : Entries Value} (suits : (Value.map entries).Suits users) {key : String} {id : ObjectId}
    (present : Entries.get? key entries = some (.id id)) (object : id.role ≠ .used) : id.Suits users :=
  (suits.under present).ids id (List.mem_singleton_self _) object

end Suits

end Value

namespace Draft

/-- The expression may stand in a statement, and there is no lambda in it. -/
structure Serves (d : Draft) (e : Cpp.Expr) : Prop where
  fits : ∀ arg, d.Fits arg e
  unused : e.uses = []

variable {d next : Draft} {object : Cpp.Expr} {args : List Cpp.Expr}

theorem serves_of_nil {e : Cpp.Expr} (references : e.references = []) (types : e.types = [])
    (plain : e.lambdas = []) : d.Serves e := by
  refine ⟨fun _ => fits_of_nil references types plain, ?_⟩
  rw [Cpp.Expr.uses, references]
  rfl

theorem serves_reference {symbol : Cpp.Symbol} (knows : d.Knows symbol) (pointer : symbol.binding = .pointer) :
    d.Serves (.reference symbol) :=
  ⟨fun _ => fits_reference knows, Cpp.uses_pointer pointer⟩

theorem serves_allocate {type : CppType} (known : type.Known) (each : ∀ part ∈ args, d.Serves part) :
    d.Serves (.allocate type args) := by
  refine ⟨fun arg => fits_allocate (fun _ => known) fun part member => (each part member).fits arg, ?_⟩
  rw [Cpp.uses_allocate]
  exact List.flatMap_eq_nil_iff.mpr fun part member => (each part member).unused

theorem serves_method {name : String} {typeArgs : List CppType} (serves : d.Serves object)
    (known : ∀ type ∈ typeArgs, type.Known) (each : ∀ part ∈ args, d.Serves part) :
    d.Serves (object.method name typeArgs args) := by
  refine ⟨fun arg => fits_method (serves.fits arg) (fun _ => known) fun part member => (each part member).fits arg,
    ?_⟩
  rw [Cpp.uses_method, serves.unused, List.nil_append]
  exact List.flatMap_eq_nil_iff.mpr fun part member => (each part member).unused

theorem serves_call {name : String} (serves : d.Serves object) (each : ∀ part ∈ args, d.Serves part) :
    d.Serves (object.call name args) :=
  serves_method serves (fun _ member => nomatch member) each

theorem serves_single {e : Cpp.Expr} (serves : d.Serves e) : ∀ part ∈ [e], d.Serves part :=
  fun _ member => List.mem_singleton.mp member ▸ serves

theorem serves_call_literal {name : String} {literal : Cpp.Expr} (serves : d.Serves object)
    (references : literal.references = []) (types : literal.types = []) (plain : literal.lambdas = []) :
    d.Serves (object.call name [literal]) :=
  serves_call serves (serves_single (serves_of_nil references types plain))

theorem serves_register {component : Cpp.Expr} (serves : d.Serves component) :
    d.Serves (Automation.register component) :=
  serves_call (serves_of_nil rfl rfl rfl) (serves_single serves)

theorem Serves.mono {e : Cpp.Expr} (serves : d.Serves e) (knows : ∀ symbol, d.Knows symbol → next.Knows symbol) :
    next.Serves e :=
  ⟨fun arg => (serves.fits arg).mono knows, serves.unused⟩

/-- The inline name stands for what became of the code. -/
def IsCompiled (aliases : Entries String) (code : String) (declaration : Declaration) : Prop :=
  ∃ definition, declaration.definition = some definition ∧ Lambda.CompilesTo aliases code definition

/-- The second draft has just the lambdas of these codes besides those of the first, and its further statements
    mention each of them once. -/
def Compiles (users codes : List String) (d next : Draft) : Prop :=
  ∃ ordered added, ordered.Perm codes ∧ List.Forall₂ (IsCompiled d.symbols.aliases) ordered added ∧
    Extends users added (added.map (·.symbol.name)) d next

variable {users codes others : List String} {last : Draft}

theorem Extends.compiles (extends_ : Extends users [] [] d next) : Compiles users [] d next :=
  ⟨[], [], .refl _, .nil, extends_⟩

namespace Compiles

theorem refl (tidy : d.Tidy users) : Compiles users [] d d := (Extends.refl tidy).compiles

theorem tidy (compiles : Compiles users codes d next) : next.Tidy users := by
  obtain ⟨_, _, -, -, whole⟩ := compiles
  exact whole.tidy

theorem knows (compiles : Compiles users codes d next) {symbol : Cpp.Symbol} (known : d.Knows symbol) :
    next.Knows symbol := by
  obtain ⟨_, _, -, -, whole⟩ := compiles
  exact whole.knows symbol known

theorem serves (compiles : Compiles users codes d next) {e : Cpp.Expr} (before : d.Serves e) : next.Serves e :=
  before.mono fun _ => compiles.knows

theorem trans (first : Compiles users codes d next) (second : Compiles users others next last) :
    Compiles users (codes ++ others) d last := by
  obtain ⟨ordered, added, perm, each, whole⟩ := first
  obtain ⟨orderedToo, addedToo, permToo, eachToo, wholeToo⟩ := second
  rw [whole.aliases] at eachToo
  refine ⟨ordered ++ orderedToo, added ++ addedToo, perm.append permToo, List.rel_append each eachToo, ?_⟩
  rw [List.map_append]
  exact whole.trans wholeToo

theorem perm (compiles : Compiles users codes d next) (same : codes.Perm others) :
    Compiles users others d next := by
  obtain ⟨ordered, added, perm, rest⟩ := compiles
  exact ⟨ordered, added, perm.trans same, rest⟩

end Compiles

end Draft

namespace Automation

open Draft

variable {users codes : List String} {d next : Draft} {arg : CppType} {expected : List CppType}
  {symbols : List Cpp.Symbol}

theorem IsObject.isGenerated {declaration : Declaration} (object : IsObject arg declaration) :
    Cpp.IsGenerated declaration.symbol.name := by
  obtain ⟨template, listed, -, made⟩ := object.made
  have member : (CppType.named template).nameHint ∈ Cpp.hints :=
    List.mem_cons_of_mem _ (List.mem_map_of_mem (List.mem_append_right _ (List.mem_map_of_mem listed)))
  exact ⟨_, member, made⟩

section Lambdas

variable {aliases : Entries String} {code : String} {declaration : Declaration}

theorem IsLambda.isGenerated (lambda : IsLambda aliases expected code declaration) :
    Cpp.IsGenerated declaration.symbol.name := ⟨"lambda", List.mem_cons_self, lambda.made⟩

theorem IsLambda.isCompiled (lambda : IsLambda aliases expected code declaration) :
    IsCompiled aliases code declaration := by
  obtain ⟨parameters, result, body, defined, compiles, -⟩ := lambda.compiled
  exact ⟨_, defined, compiles⟩

theorem IsLambda.types_known (lambda : IsLambda aliases expected code declaration)
    (each : ∀ type ∈ expected, type.Known) {definition : Cpp.Expr}
    (defined : declaration.definition = some definition) : ∀ type ∈ definition.types, type.Known := by
  obtain ⟨parameters, result, body, own, compiles, types, known⟩ := lambda.compiled
  cases own.symm.trans defined
  rw [compiles.types, types]
  intro type inside
  exact (List.mem_append.mp inside).elim (each type) fun given => known type (Option.mem_toList.mp given)

end Lambdas

/-- What was assembled over known types makes a tidy draft of a tidy one. -/
theorem Assembles.compiles (tidy : d.Tidy users) (known : arg.Known) (each : ∀ type ∈ expected, type.Known)
    (made : Assembles arg expected codes symbols d next) : Compiles users codes d next := by
  obtain ⟨added, rfl, sits, used, -⟩ := made
  have extended : Extends users added.lambdas added.uses d (d.plus added) := by
    refine tidy.plus sits.free sits.differ (fun declaration member object => ?_)
      (fun declaration member definition defined => ?_) (fun name member => ?_)
      fun statement member other => (sits.fits statement member).any known other
    · obtain ⟨template, listed, typed, -⟩ := (sits.objects declaration member object).made
      rw [typed]
      exact known_instantiate listed known
    · obtain ⟨code, -, lambda⟩ := exists_mem_left_of_forall₂ sits.lambdas member
      exact lambda.types_known each defined
    · obtain ⟨declaration, listed, rfl⟩ := List.mem_map.mp member
      by_cases inline : declaration.symbol.binding = .inline
      · have inside : declaration ∈ added.lambdas := List.mem_filter.mpr ⟨listed, decide_eq_true inline⟩
        obtain ⟨code, -, lambda⟩ := exists_mem_left_of_forall₂ sits.lambdas inside
        exact lambda.isGenerated
      · exact (sits.objects declaration listed inline).isGenerated
  rw [used tidy.clear] at extended
  exact ⟨codes, added.lambdas, .refl _, sits.lambdas.imp fun _ _ lambda => lambda.isCompiled, extended⟩

end Automation

namespace Build

open Draft

variable {users : List String} {d : Draft}

theorem compiles_keep (tidy : d.Tidy users) {change : Draft → Draft}
    (declarations : (change d).symbols.declarations = d.symbols.declarations)
    (aliases : (change d).symbols.aliases = d.symbols.aliases)
    (statements : (change d).statements = d.statements) :
    Ensures (modify change) d fun _ next => Compiles users [] d next :=
  yields_modify (tidy.keep declarations aliases statements).compiles

theorem compiles_enter (tidy : d.Tidy users) (component : String) :
    Ensures (enter component) d fun _ next => Compiles users [] d next := compiles_keep tidy rfl rfl rfl

theorem compiles_addFlag (tidy : d.Tidy users) (flag : String) :
    Ensures (addFlag flag) d fun _ next => Compiles users [] d next := compiles_keep tidy rfl rfl rfl

theorem compiles_addLibrary (tidy : d.Tidy users) (library : String) :
    Ensures (addLibrary library) d fun _ next => Compiles users [] d next := compiles_keep tidy rfl rfl rfl

theorem compiles_addInclude (tidy : d.Tidy users) (directive : String) :
    Ensures (addInclude directive) d fun _ next => Compiles users [] d next := compiles_keep tidy rfl rfl rfl

theorem compiles_evaluate (tidy : d.Tidy users) {e : Cpp.Expr} (serves : d.Serves e) :
    Ensures (evaluate e) d fun _ next => Compiles users [] d next := by
  have adds := Automation.ensures_evaluate [] (serves.fits .noArg)
  refine adds.mono fun _ next added => ?_
  exact (added.assembles fun _ => serves.unused).compiles tidy (by decide) (List.forall_mem_nil _)

/-- A lambda is compiled, and the statement that mentions it is added. -/
theorem compiles_use (tidy : d.Tidy users) {path : Path} {code : String} {result : Option CppType}
    (known : ∀ type ∈ result, type.Known) {object : Cpp.Expr} (serves : d.Serves object) (method : String) :
    Ensures (do
      let lambda ← (⟨path, .lambda code⟩ : Node).compileLambda [] result
      evaluate (object.call method [lambda])) d fun _ next => Compiles users [code] d next := by
  refine (Lambda.ensures_compile known).bind fun e later ⟨declaration, free, lambda, same, whole⟩ => ?_
  subst same whole
  have call : (d.plus ⟨[declaration], []⟩).Fits .noArg (object.call method [.reference declaration.symbol]) :=
    fits_call ((serves.fits _).mono fun _ known => known.plus _)
      (fits_single (fits_reference (knows_of_mem List.mem_cons_self)))
  have used := Cpp.uses_call_inline method serves.unused lambda.inline
  refine (Automation.ensures_evaluate [] call).mono fun _ next added => ?_
  exact (added.afterLambda free lambda fun _ => used).compiles tidy (by decide) (List.forall_mem_nil _)

/-- An object that gets its name now. -/
theorem extends_bindAdded (tidy : d.Tidy users) {symbol : Cpp.Symbol} (free : symbol.name ∉ d.symbols.names)
    (made : Cpp.IsGenerated symbol.name) (pointer : symbol.binding = .pointer) (typed : symbol.type.Known)
    {definition : Cpp.Expr} (fits : ∀ arg, d.Fits arg definition) :
    Extends users [] definition.uses d
      (d.plus ⟨[⟨symbol, some definition, d.symbols.component⟩], [.bind symbol definition]⟩) := by
  let added : Addition := ⟨[⟨symbol, some definition, d.symbols.component⟩], [.bind symbol definition]⟩
  have lambdas : added.lambdas = [] := by simp [added, Addition.lambdas, pointer]
  have uses : added.uses = definition.uses := List.append_nil _
  have own : ∀ name ∈ added.names, name = symbol.name := fun _ => List.mem_singleton.mp
  have whole : Extends users added.lambdas added.uses d (d.plus added) := by
    refine tidy.plus (fun name member => ?_) (List.nodup_singleton _) (fun declaration member _ => ?_) ?_
      (fun name member => ?_) fun statement member arg => ?_
    · exact own name member ▸ free
    · exact List.mem_singleton.mp member ▸ typed
    · rw [lambdas]
      exact List.forall_mem_nil _
    · exact own name member ▸ made
    · rw [List.mem_singleton.mp member]
      exact (fits arg).mono fun _ known => known.plus added
  rwa [lambdas, uses] at whole

theorem ensures_refine (symbol : Cpp.Symbol) (type : Option CppType) (binding : Cpp.Binding) :
    Ensures (refine symbol type binding) d fun refined next => ∃ found,
      d.symbols.find? symbol.name = some found ∧ found.definition = none ∧
        refined = ⟨found.symbol.name, type.getD found.symbol.type, binding⟩ ∧
        next = { d with symbols := d.symbols.replace { found with symbol := refined } } := by
  rw [refine]
  cases read : d.symbols.refine symbol type binding with
  | error e => exact yields_bind (yields_ofSymbols_error read trivial)
  | ok result =>
    obtain ⟨found, refined, held, undefined, rfl, rfl⟩ := Symbols.refine_eq_ok_iff.mp read
    refine yields_bind (yields_ofSymbols read (yields_bind (yields_setSymbols (yields_pure ?_))))
    exact ⟨found, held, undefined, rfl, rfl⟩

theorem ensures_bindSymbol (symbol : Cpp.Symbol) (definition : Cpp.Expr) :
    Ensures (bind symbol definition) d fun _ next => ∃ found,
      d.symbols.find? symbol.name = some found ∧ found.definition = none ∧
        next = { d with
          symbols := d.symbols.replace { found with definition := some definition }
          statements := d.statements ++ [.bind symbol definition] } := by
  rw [bind, define]
  cases read : d.symbols.define symbol definition with
  | error e => exact yields_bind (yields_bind (yields_ofSymbols_error read trivial))
  | ok next =>
    obtain ⟨found, held, undefined, rfl⟩ := Symbols.define_eq_ok_iff.mp read
    refine yields_bind (yields_bind (yields_ofSymbols read (yields_setSymbols (yields_modify ?_))))
    exact ⟨found, held, undefined, rfl⟩

/-- An object that the user named takes a type, if one is given, and is bound. -/
theorem ensures_bindDeclared {id : ObjectId} (role : id.role = .declared) {found : Declaration}
    (leads : Entries.get? id.name d.symbols.aliases = some id.name) (held : d.symbols.find? id.name = some found)
    (definition : Cpp.Expr) (type : Option CppType) :
    Ensures (bindGlobal id definition type) d fun symbol next =>
      symbol = ⟨found.symbol.name, type.getD found.symbol.type, .pointer⟩ ∧
        next = { d with
          symbols := d.symbols.replace ⟨symbol, some definition, found.component⟩
          statements := d.statements ++ [.bind symbol definition] } := by
  have own := Symbols.name_of_find? held
  have heldOwn : d.symbols.find? found.symbol.name = some found := by rw [own, held]
  let refined : Cpp.Symbol := ⟨found.symbol.name, type.getD found.symbol.type, .pointer⟩
  let changed : Declaration := { found with symbol := refined }
  let defined : Declaration := { changed with definition := some definition }
  have chosen : Ensures (symbolOf id type .pointer) d fun symbol later =>
      symbol = refined ∧ later = { d with symbols := d.symbols.replace changed } := by
    rw [symbolOf, role]
    refine yields_bind (yields_get ?_)
    rw [Symbols.resolve_eq leads held]
    refine (ensures_refine _ _ _).mono fun symbol later result => ?_
    obtain ⟨other, heldToo, -, rfl, whole⟩ := result
    cases heldOwn.symm.trans heldToo
    exact ⟨rfl, whole⟩
  rw [bindGlobal]
  refine chosen.bind fun symbol later both => ?_
  obtain ⟨rfl, rfl⟩ := both
  refine (ensures_bindSymbol _ _).bind fun _ next result => yields_pure ⟨rfl, ?_⟩
  obtain ⟨other, heldToo, -, whole⟩ := result
  have now : (d.symbols.replace changed).find? refined.name = some changed := Symbols.find?_replace_self heldOwn
  cases now.symm.trans heldToo
  have once : (d.symbols.replace changed).replace defined = d.symbols.replace defined :=
    Symbols.replace_replace rfl
  dsimp only at whole
  rw [once] at whole
  exact whole

theorem extends_bindDeclared (tidy : d.Tidy users) {id : ObjectId} (role : id.role = .declared)
    (user : id.name ∈ users) {definition : Cpp.Expr} (fits : ∀ arg, d.Fits arg definition) {type : Option CppType}
    (typed : ∀ given, type = some given → given.Known) :
    Ensures (bindGlobal id definition type) d fun symbol next =>
      Extends users [] definition.uses d next ∧ next.Knows symbol ∧ symbol.binding = .pointer := by
  obtain ⟨found, held, pointer⟩ := tidy.declared id.name user
  have leads : Entries.get? id.name d.symbols.aliases = some id.name := by rw [tidy.aliases, if_pos user]
  have heldOwn : d.symbols.find? found.symbol.name = some found := by rw [Symbols.name_of_find? held, held]
  refine (ensures_bindDeclared role leads held definition type).mono fun symbol next both => ?_
  obtain ⟨rfl, rfl⟩ := both
  have known : (type.getD found.symbol.type).Known := by
    cases type with
    | none =>
      have object : found.symbol.binding ≠ .inline := by
        rw [pointer]
        decide
      exact tidy.typed found (List.mem_of_find?_eq_some held) object
    | some given => exact typed given rfl
  exact ⟨tidy.rebind heldOwn pointer rfl known fits, ⟨_, Symbols.mem_replace_self heldOwn, rfl, rfl⟩, rfl⟩

/-- An object of the configuration is bound, whoever named it. -/
theorem extends_bindGlobal (tidy : d.Tidy users) {id : ObjectId} (suits : id.Suits users)
    (object : id.role ≠ .used) {definition : Cpp.Expr} (fits : ∀ arg, d.Fits arg definition)
    {type : Option CppType} (typed : ∀ given, type = some given → given.Known) :
    Ensures (bindGlobal id definition type) d fun symbol next =>
      Extends users [] definition.uses d next ∧ next.Serves (.reference symbol) := by
  cases role : id.role with
  | used => exact absurd role object
  | generated =>
    let symbol := (d.symbols.declare id.name (type.getD id.type) .pointer).1
    have free : symbol.name ∉ d.symbols.names := Symbols.notMem_names_declare _ _ _ _
    have made : Cpp.IsGenerated symbol.name := by
      obtain ⟨hint, member, inside⟩ := suits.made role
      exact ⟨hint, member, inside.trans (Cpp.prefix_fresh _ _)⟩
    have known : symbol.type.Known := by
      cases type with
      | none => exact suits.type
      | some given => exact typed given rfl
    let added : Addition := ⟨[⟨symbol, some definition, d.symbols.component⟩], [.bind symbol definition]⟩
    have knows : (d.plus added).Knows symbol := ⟨_, List.mem_append_right _ List.mem_cons_self, rfl, rfl⟩
    rw [bindGlobal, symbolOf, role]
    refine yields_bind (yields_of_apply (apply_declareNew d _ _ _) (yields_bind ?_))
    refine yields_of_apply (apply_bindAdded d free definition) (yields_pure ?_)
    exact ⟨extends_bindAdded tidy free made rfl known fits, serves_reference knows rfl⟩
  | declared =>
    refine (extends_bindDeclared tidy role (suits.own role) fits typed).mono fun symbol next bound => ?_
    exact ⟨bound.1, serves_reference bound.2.1 bound.2.2⟩

theorem known_of_none : ∀ given, (none : Option CppType) = some given → given.Known := fun _ same => nomatch same

theorem compiles_bindGlobal (tidy : d.Tidy users) {id : ObjectId} (suits : id.Suits users)
    (object : id.role ≠ .used) {definition : Cpp.Expr} (serves : d.Serves definition) {type : Option CppType}
    (typed : ∀ given, type = some given → given.Known) :
    Ensures (bindGlobal id definition type) d fun symbol next =>
      Compiles users [] d next ∧ next.Serves (.reference symbol) := by
  refine (extends_bindGlobal tidy suits object serves.fits typed).mono fun symbol next ⟨whole, mention⟩ => ?_
  rw [serves.unused] at whole
  exact ⟨whole.compiles, mention⟩

/-- The name of a lambda whose body is compiled later. -/
theorem extends_declareLambda (tidy : d.Tidy users) {pending : Lambda.Pending} {code : String}
    {expected : List CppType} (free : pending.symbol.name ∉ d.symbols.names)
    (awaits : Lambda.Awaits code expected pending) :
    Extends users [⟨pending.symbol, none, d.symbols.component⟩] []
      d { d with symbols := d.symbols.add pending.symbol } := by
  let declared : Declaration := ⟨pending.symbol, none, d.symbols.component⟩
  let added : Addition := ⟨[declared], []⟩
  have whole : { d with symbols := d.symbols.add pending.symbol } = d.plus added := by
    rw [plus, List.append_nil]
    rfl
  have lambdas : added.lambdas = [declared] := by simp [added, declared, Addition.lambdas, awaits.inline]
  have own : ∀ name ∈ added.names, name = pending.symbol.name := fun _ => List.mem_singleton.mp
  have extended : Extends users added.lambdas [] d (d.plus added) := by
    refine tidy.plus (fun name member => ?_) (List.nodup_singleton _) (fun declaration member object => ?_)
      (fun declaration member definition defined => ?_) (fun name member => ?_) (List.forall_mem_nil _)
    · exact own name member ▸ free
    · rw [List.mem_singleton.mp member] at object
      exact absurd awaits.inline object
    · rw [lambdas] at member
      rw [List.mem_singleton.mp member] at defined
      cases defined
    · exact own name member ▸ ⟨"lambda", List.mem_cons_self, awaits.made⟩
  rwa [lambdas, ← whole] at extended

/-- The lambda is compiled in the end. -/
theorem compiles_defineLambda {pending : Lambda.Pending} {code component : String} {start : Draft}
    (awaits : Lambda.Awaits code [] pending)
    (waits : Extends users [⟨pending.symbol, none, component⟩] [pending.symbol.name] start d) :
    Ensures pending.define d fun _ next =>
      Compiles users [code] start next ∧ ∀ symbol, d.Knows symbol → next.Knows symbol := by
  let declared : Declaration := ⟨pending.symbol, none, component⟩
  have listed : declared ∈ d.symbols.lambdas := by
    rw [waits.lambdas]
    exact List.mem_append_right _ List.mem_cons_self
  have held : d.symbols.find? pending.symbol.name = some declared :=
    Symbols.find?_of_mem waits.tidy.differ (List.mem_filter.mp listed).1
  refine (Lambda.ensures_define awaits held rfl).mono fun _ next ⟨_, definition, whole, lambda⟩ => ?_
  subst whole
  let defined : Declaration := { declared with definition := some definition }
  have isLambda : Automation.IsLambda d.symbols.aliases [] code defined := lambda awaits.inline
  have finished : Extends users [defined] [pending.symbol.name] start
      { d with symbols := d.symbols.replace defined } :=
    waits.define rfl awaits.inline fun _ => isLambda.types_known (List.forall_mem_nil _)
  refine ⟨⟨[code], [defined], .refl _, ?_, finished⟩, fun symbol known => ?_⟩
  · rw [← waits.aliases]
    exact .cons isLambda.isCompiled .nil
  · exact @Knows.replace _ _ _ known waits.tidy.differ defined declared held rfl rfl

end Build

end DeviceConfig
