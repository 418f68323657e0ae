import DeviceConfig.Proofs.Assembly.Steps
import DeviceConfig.Proofs.Generation.Switches
import DeviceConfig.Proofs.Program.Drafts

/-!
What a step appends to the statements (`Build.Appends`), while nothing that was declared, defined or given to a
user's name is taken back (`Symbols.Grows`). This needs nothing of the draft that the step begins with.
-/

namespace DeviceConfig

namespace Symbols

variable {s t u : Symbols} {name : String}

/-- Declarations stay, definitions stay what they are, and a user's name that leads to a declaration leads there
    still. -/
structure Grows (s t : Symbols) : Prop where
  names : ∀ name ∈ s.names, name ∈ t.names
  defined : ∀ name found, s.find? name = some found → found.definition.isSome = true → t.find? name = some found
  leads : ∀ user target, Entries.get? user s.aliases = some target → target ∈ s.names →
    Entries.get? user t.aliases = some target

namespace Grows

theorem refl (s : Symbols) : s.Grows s := ⟨fun _ => id, fun _ _ held _ => held, fun _ _ leads _ => leads⟩

theorem trans (first : s.Grows t) (second : t.Grows u) : s.Grows u :=
  ⟨fun name member => second.names name (first.names name member),
    fun name found held given => second.defined name found (first.defined name found held given) given,
    fun user target leads member =>
      second.leads user target (first.leads user target leads member) (first.names target member)⟩

theorem isDefined (grows : s.Grows t) (defined : s.IsDefined name) : t.IsDefined name := by
  obtain ⟨found, held, given⟩ := defined
  exact ⟨found, grows.defined name found held given, given⟩

end Grows

theorem resolve_eq_ok_iff {symbol : Cpp.Symbol} : s.resolve name = .ok symbol ↔
    ∃ target found, Entries.get? name s.aliases = some target ∧ s.find? target = some found ∧
      found.symbol = symbol := by
  rw [resolve]
  cases leads : Entries.get? name s.aliases with
  | none => simp
  | some target => cases held : s.find? target <;> simp [held]

theorem Grows.resolve {symbol : Cpp.Symbol} (grows : s.Grows t) (resolved : s.resolve name = .ok symbol)
    (defined : s.IsDefined symbol.name) : t.resolve name = .ok symbol := by
  obtain ⟨target, found, leads, held, rfl⟩ := resolve_eq_ok_iff.mp resolved
  obtain ⟨other, heldToo, given⟩ := defined
  rw [name_of_find? held] at heldToo
  cases held.symm.trans heldToo
  exact resolve_eq_ok_iff.mpr ⟨target, found, grows.leads name target leads (mem_names_of_find? held),
    grows.defined target found held given, rfl⟩

/-- An operation takes nothing back, unless it gives the user's name of a declaration to another one. -/
theorem grows_after (s : Symbols) (operation : Operation)
    (fresh : ∀ user, operation.alias? = some user → ∀ symbol, s.resolve user ≠ .ok symbol) :
    s.Grows (s.after operation) := by
  refine ⟨fun name member => ?_, fun name found held given => ?_, fun user target leads member => ?_⟩
  · rw [names_after]
    exact List.mem_append_left _ member
  · rcases s.after_cases operation with
      ⟨symbol, -, free, same⟩ | ⟨-, same | ⟨other, changed, heldToo, undefined, same⟩⟩
    · have other : name ≠ symbol.name := fun here => free (here ▸ mem_names_of_find? held)
      rw [find?, same, ← find?, find?_add free, if_neg other, held]
    · rw [find?, same, ← find?, held]
    · have other : name ≠ changed.symbol.name := by
        rintro rfl
        cases held.symm.trans heldToo
        rw [undefined] at given
        cases given
      rw [same, find?_replace, if_neg other, held]
  · have other : operation.alias? ≠ some user := by
      intro own
      obtain ⟨found, held⟩ := Option.ne_none_iff_exists'.mp (mt find?_eq_none_iff.mp (not_not_intro member))
      exact fresh user own found.symbol (resolve_eq_ok_iff.mpr ⟨target, found, leads, held, rfl⟩)
    rw [get?_aliases_after, if_neg other, leads]

end Symbols

namespace Build

open Symbols

variable {α β : Type}

/-- Statements that are as is expected of the step's result are added at the end, and nothing is taken back. -/
def Appends (step : Build α) (what : α → List Cpp.Statement → Prop) : Prop :=
  ∀ d, Ensures step d fun a next => d.symbols.Grows next.symbols ∧
    ∃ added, next.statements = d.statements ++ added ∧ what a added

variable {what : α → List Cpp.Statement → Prop} {whole : β → List Cpp.Statement → Prop}

theorem Appends.mono {weaker : α → List Cpp.Statement → Prop} {step : Build α} (appends : step.Appends what)
    (each : ∀ a added, what a added → weaker a added) : step.Appends weaker := by
  refine fun d => (appends d).mono fun a next result => ?_
  obtain ⟨grows, added, same, own⟩ := result
  exact ⟨grows, added, same, each a added own⟩

theorem Appends.bind {first : Build α} {next : α → Build β} (appends : first.Appends what)
    (rest : ∀ a added, what a added → (next a).Appends fun b more => whole b (added ++ more)) :
    (first >>= next).Appends whole := by
  refine fun d => (appends d).bind fun a mid result => ?_
  obtain ⟨grows, added, same, own⟩ := result
  refine (rest a added own mid).mono fun b last resultToo => ?_
  obtain ⟨growsToo, more, sameToo, all⟩ := resultToo
  exact ⟨grows.trans growsToo, added ++ more, by rw [sameToo, same, List.append_assoc], all⟩

theorem appends_pure {a : α} (done : what a []) : (pure a : Build α).Appends what :=
  fun _ => yields_pure ⟨.refl _, [], (List.append_nil _).symm, done⟩

theorem appends_throw (e : CompileError) : (throw e : Build α).Appends what := fun _ => yields_throw trivial

/-- A step that changes the names by operations on them, and nothing else. -/
theorem appends_of_after {step : Build α} (operation : Operation) (fresh : operation.alias? = none)
    (same : ∀ d : Draft, (step.apply d).2 = { d with symbols := d.symbols.after operation }) :
    step.Appends fun _ added => added = [] := by
  refine fun d => ensures_iff.mpr fun a next run => ?_
  have whole := same d
  rw [run] at whole
  subst whole
  refine ⟨grows_after _ _ fun user own => ?_, [], (List.append_nil _).symm, rfl⟩
  rw [fresh] at own
  cases own

theorem appends_ofSymbols (read : Symbols → Except CompileError α) :
    (ofSymbols read).Appends fun a added => added = [] ∧ ∃ s, read s = .ok a := by
  intro d
  cases given : read d.symbols with
  | error e => exact yields_ofSymbols_error given trivial
  | ok a => exact yields_ofSymbols given ⟨.refl _, [], (List.append_nil _).symm, rfl, _, given⟩

theorem appends_evaluate (e : Cpp.Expr) : (evaluate e).Appends fun _ added => added = [.run e] :=
  fun _ => yields_of_apply rfl ⟨.refl _, [.run e], rfl, rfl⟩

theorem appends_declare (hint : String) (type : CppType) (binding : Cpp.Binding) :
    (declare hint type binding).Appends fun _ added => added = [] :=
  appends_of_after (.declare hint type binding) rfl fun _ => rfl

theorem appends_define (symbol : Cpp.Symbol) (definition : Cpp.Expr) :
    (define symbol definition).Appends fun _ added => added = [] :=
  appends_of_after (.define symbol definition) rfl (apply_define symbol definition)

theorem appends_bindSymbol (symbol : Cpp.Symbol) (definition : Cpp.Expr) :
    (Build.bind symbol definition).Appends fun _ added => added = [.bind symbol definition] := by
  refine (appends_define symbol definition).bind fun _ added none => ?_
  subst none
  exact fun _ => yields_of_apply rfl ⟨.refl _, [.bind symbol definition], rfl, rfl⟩

theorem appends_bindNew (template : String) (arg : CppType) (definition : Cpp.Expr) :
    (Automation.bindNew template arg definition).Appends fun e added => ∃ symbol, e = .reference symbol ∧
      added = [.bind symbol definition] := by
  refine (appends_declare _ _ _).bind fun symbol added none => ?_
  subst none
  refine (appends_bindSymbol symbol definition).bind fun _ more only => ?_
  subst only
  exact appends_pure ⟨symbol, rfl, rfl⟩

end Build

namespace Draft

variable {d mid next : Draft} {id : ObjectId} {symbol : Cpp.Symbol} {definition : Cpp.Expr}

/-- The object with this identifier is what the symbol stands for, and is defined so. If it has no name of its own, the
    symbol has the first one for it that was free when it was bound. -/
structure Identifies (d next : Draft) (id : ObjectId) (symbol : Cpp.Symbol) (definition : Cpp.Expr) : Prop where
  defined : ∃ component, next.symbols.find? symbol.name = some ⟨symbol, some definition, component⟩
  given : id.role ≠ .generated → next.symbols.resolve id.name = .ok symbol
  made : id.role = .generated → symbol.type = id.type ∧ ∃ taken, (∀ name ∈ d.symbols.names, name ∈ taken) ∧
    (∀ name ∈ taken, name ∈ next.symbols.names) ∧ Cpp.IsFirstFree (Cpp.toName id.name) taken symbol.name

theorem Identifies.isDefined (identifies : Identifies d next id symbol definition) :
    next.symbols.IsDefined symbol.name := by
  obtain ⟨component, held⟩ := identifies.defined
  exact ⟨_, held, rfl⟩

theorem Identifies.later (identifies : Identifies d mid id symbol definition)
    (grows : mid.symbols.Grows next.symbols) : Identifies d next id symbol definition := by
  refine ⟨?_, fun role => grows.resolve (identifies.given role) identifies.isDefined, fun role => ?_⟩
  · obtain ⟨component, held⟩ := identifies.defined
    exact ⟨component, grows.defined _ _ held rfl⟩
  · obtain ⟨typed, taken, before, after, free⟩ := identifies.made role
    exact ⟨typed, taken, before, fun name member => grows.names name (after name member), free⟩

theorem Identifies.since (identifies : Identifies mid next id symbol definition)
    (grows : d.symbols.Grows mid.symbols) : Identifies d next id symbol definition := by
  refine ⟨identifies.defined, identifies.given, fun role => ?_⟩
  obtain ⟨typed, taken, before, after, free⟩ := identifies.made role
  exact ⟨typed, taken, fun name member => before name (grows.names name member), after, free⟩

/-- The symbol is declared for the object with this identifier, and nothing has been bound to its name so far. -/
structure Readies (d next : Draft) (id : ObjectId) (type : Option CppType) (symbol : Cpp.Symbol) : Prop where
  grows : d.symbols.Grows next.symbols
  statements : next.statements = d.statements
  undefined : ¬d.symbols.IsDefined symbol.name
  declared : ∃ component, next.symbols.find? symbol.name = some ⟨symbol, none, component⟩
  given : id.role ≠ .generated → Entries.get? id.name next.symbols.aliases = some symbol.name
  made : id.role = .generated → symbol.type = type.getD id.type ∧
    Cpp.IsFirstFree (Cpp.toName id.name) d.symbols.names symbol.name

end Draft

namespace Build

open Draft

variable {d : Draft} {id : ObjectId}

/-- The symbol is the one that the user's name led to, or was declared for it since. -/
theorem readies_refine {start : Draft} {symbol : Cpp.Symbol} (given : id.role ≠ .generated)
    (grows : start.symbols.Grows d.symbols) (same : d.statements = start.statements)
    (leads : Entries.get? id.name d.symbols.aliases = some symbol.name) (type : Option CppType)
    (binding : Cpp.Binding) :
    Ensures (refine symbol type binding) d fun refined next => start.Readies next id type refined := by
  have later := appends_of_after (.refine symbol type binding) rfl (apply_refine symbol type binding) d
  refine ((ensures_refine symbol type binding).and later).mono fun refined next both => ?_
  obtain ⟨⟨found, held, undefined, rfl, rfl⟩, growsToo, -⟩ := both
  have own : found.symbol.name = symbol.name := Symbols.name_of_find? held
  rw [← own] at held leads
  let refined : Cpp.Symbol := ⟨found.symbol.name, type.getD found.symbol.type, binding⟩
  refine ⟨grows.trans growsToo, same, fun defined => ?_, ⟨found.component, ?_⟩, fun _ => leads,
    fun made => absurd made given⟩
  · obtain ⟨other, heldToo, definition⟩ := grows.isDefined defined
    cases held.symm.trans heldToo
    rw [undefined] at definition
    cases definition
  · have now : (d.symbols.replace { found with symbol := refined }).find? refined.name =
        some { found with symbol := refined } := Symbols.find?_replace_self held
    exact now.trans (by rw [undefined])

theorem readies_symbolOf (id : ObjectId) (type : Option CppType) (binding : Cpp.Binding) :
    Ensures (symbolOf id type binding) d fun symbol next => d.Readies next id type symbol := by
  rw [symbolOf]
  cases role : id.role with
  | generated =>
    let symbol := (d.symbols.declare id.name (type.getD id.type) binding).1
    have free : symbol.name ∉ d.symbols.names := Symbols.notMem_names_declare _ _ _ _
    have held := Symbols.find?_add free symbol.name
    rw [if_pos rfl] at held
    refine yields_of_apply (apply_declareNew d _ _ _) ⟨?_, rfl, ?_, ⟨_, held⟩, ?_, fun _ => ⟨rfl, ?_⟩⟩
    · exact Symbols.grows_after d.symbols (.declare id.name (type.getD id.type) binding) fun _ own => by cases own
    · rintro ⟨found, declared, -⟩
      exact free (Symbols.mem_names_of_find? declared)
    · exact fun given => absurd role given
    · exact Cpp.isFirstFree_fresh _ _
  | declared =>
    have given : id.role ≠ .generated := role ▸ by decide
    refine yields_bind (yields_get ?_)
    cases read : d.symbols.resolve id.name with
    | ok symbol => exact readies_refine given (.refl _) rfl (Lambda.name_of_resolve read) type binding
    | error e =>
      -- the user's name leads nowhere, so that it may lead to a new symbol
      have grows : d.symbols.Grows (d.symbols.declareObject id binding).2 := by
        refine Symbols.grows_after d.symbols (.declareObject id binding) fun user own symbol resolved => ?_
        rw [Symbols.Operation.alias?, if_pos role] at own
        cases own
        cases read.symm.trans resolved
      have leads : Entries.get? id.name (d.symbols.declareObject id binding).2.aliases =
          some (d.symbols.declareObject id binding).1.name := by
        rw [Symbols.declareObject_aliases, if_pos role, Entries.get?_setSorted, if_pos rfl]
      let mid : Draft := { d with symbols := (d.symbols.declareObject id binding).2 }
      have run : (declareObject id binding).apply d = (.ok (d.symbols.declareObject id binding).1, mid) := rfl
      exact yields_bind (yields_of_apply run (@readies_refine mid id d _ given grows rfl leads type binding))
  | used =>
    have given : id.role ≠ .generated := role ▸ by decide
    cases read : d.symbols.resolve id.name with
    | ok symbol =>
      exact yields_bind (yields_ofSymbols read
        (readies_refine given (.refl _) rfl (Lambda.name_of_resolve read) type binding))
    | error e => exact yields_bind (yields_ofSymbols_error read trivial)

theorem ensures_bindGlobal (id : ObjectId) (definition : Cpp.Expr) (type : Option CppType) :
    Ensures (bindGlobal id definition type) d fun symbol next => ∃ mid, d.Readies mid id type symbol ∧
      mid.symbols.Grows next.symbols ∧ next.statements = d.statements ++ [.bind symbol definition] ∧
      ∃ component, next.symbols.find? symbol.name = some ⟨symbol, some definition, component⟩ := by
  rw [bindGlobal]
  refine (readies_symbolOf id type .pointer).bind fun symbol mid readies => ?_
  have later := appends_bindSymbol symbol definition mid
  refine ((ensures_bindSymbol symbol definition).and later).bind fun _ next both => yields_pure ?_
  obtain ⟨⟨found, held, -, whole⟩, grows, added, same, rfl⟩ := both
  obtain ⟨component, declared⟩ := readies.declared
  cases held.symm.trans declared
  refine ⟨mid, readies, grows, by rw [same, readies.statements], component, ?_⟩
  rw [whole]
  exact @Symbols.find?_replace_self mid.symbols _ ⟨symbol, some definition, component⟩ declared

theorem appends_bindGlobal (id : ObjectId) (definition : Cpp.Expr) (type : Option CppType) :
    (bindGlobal id definition type).Appends fun symbol added => added = [.bind symbol definition] := by
  refine fun d => (ensures_bindGlobal id definition type).mono fun symbol next result => ?_
  obtain ⟨mid, readies, grows, same, -⟩ := result
  exact ⟨readies.grows.trans grows, _, same, rfl⟩

/-- An object without a type of its own is bound, for the first time. -/
theorem identifies_bindGlobal (id : ObjectId) (definition : Cpp.Expr) :
    Ensures (bindGlobal id definition none) d fun symbol next => d.symbols.Grows next.symbols ∧
      next.statements = d.statements ++ [.bind symbol definition] ∧ ¬d.symbols.IsDefined symbol.name ∧
      Identifies d next id symbol definition := by
  refine (ensures_bindGlobal id definition none).mono fun symbol next result => ?_
  obtain ⟨mid, readies, grows, same, component, held⟩ := result
  have whole := readies.grows.trans grows
  refine ⟨whole, same, readies.undefined, ⟨component, held⟩, fun given => ?_, fun made => ?_⟩
  · obtain ⟨other, declared⟩ := readies.declared
    have leads := grows.leads _ _ (readies.given given) (Symbols.mem_names_of_find? declared)
    exact Symbols.resolve_eq_ok_iff.mpr ⟨symbol.name, _, leads, held, rfl⟩
  · obtain ⟨typed, free⟩ := readies.made made
    exact ⟨typed, d.symbols.names, fun _ member => member, whole.names, free⟩

end Build

end DeviceConfig
