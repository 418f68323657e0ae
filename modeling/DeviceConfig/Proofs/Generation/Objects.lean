import DeviceConfig.Automation.Object
import DeviceConfig.Proofs.Generation.Changes
import DeviceConfig.Proofs.Generation.Steps

/-!
The steps that bind objects and mention them, begun with a sound draft: none of them fails, and each
defines the names that it is about and no others.
-/

namespace DeviceConfig

/-- The name of an identifier, if the user gave it to an object. -/
def ObjectId.ownNames (id : ObjectId) : List String := if id.role = .declared then [id.name] else []

namespace Build

open Draft

variable {users : List String} {d : Draft} {fails : CompileError → Prop}

theorem yields_keep (sound : d.Sound users) {change : Draft → Draft}
    (declarations : (change d).symbols.declarations = d.symbols.declarations)
    (aliases : (change d).symbols.aliases = d.symbols.aliases)
    (statements : (change d).statements = d.statements) :
    Yields (modify change) d fails fun _ next => Binds users [] d next :=
  yields_modify (sound.keep declarations aliases statements)

theorem yields_enter (sound : d.Sound users) (component : String) :
    Yields (enter component) d fails fun _ next => Binds users [] d next :=
  yields_keep sound rfl rfl rfl

theorem yields_addFlag (sound : d.Sound users) (flag : String) :
    Yields (addFlag flag) d fails fun _ next => Binds users [] d next :=
  yields_keep sound rfl rfl rfl

theorem yields_addLibrary (sound : d.Sound users) (library : String) :
    Yields (addLibrary library) d fails fun _ next => Binds users [] d next :=
  yields_keep sound rfl rfl rfl

theorem yields_addInclude (sound : d.Sound users) (directive : String) :
    Yields (addInclude directive) d fails fun _ next => Binds users [] d next :=
  yields_keep sound rfl rfl rfl

theorem yields_evaluate (sound : d.Sound users) {e : Cpp.Expr} (usable : d.Usable users e) :
    Yields (evaluate e) d fails fun _ next => Binds users [] d next :=
  yields_modify (sound.run usable)

theorem yields_object (sound : d.Sound users) {id : ObjectId} (known : id.name ∈ users) :
    Yields (object id) d fails fun e next => next = d ∧ d.Usable users e := by
  obtain ⟨found, held, -⟩ := sound.declared id.name known
  have leads : Entries.get? id.name d.symbols.aliases = some id.name := by
    rw [sound.aliases, if_pos known]
  have own := Symbols.name_of_find? held
  have current : d.symbols.reference found.symbol = .ok (.reference found.symbol) := by
    rw [← own] at held
    exact bind_eq_ok_iff.mpr ⟨found, by rw [Symbols.declaration, held], rfl⟩
  have read := bind_eq_ok_iff.mpr ⟨found.symbol, Symbols.resolve_eq leads held, current⟩
  refine yields_ofSymbols read ⟨rfl, fun mentioned member => ?_⟩
  obtain rfl : mentioned = found.symbol := List.mem_singleton.mp member
  exact .inl (own ▸ known)

theorem yields_bindSymbol (sound : d.Sound users) {symbol : Cpp.Symbol} {found : Declaration}
    (held : d.symbols.find? symbol.name = some found) (undefined : found.definition = none)
    (pointer : found.symbol.binding = .pointer) {definition : Cpp.Expr} (usable : d.Usable users definition) :
    Yields (bind symbol definition) d fails fun _ next =>
      Binds users [symbol.name] d next ∧ next.Usable users (.reference symbol) := by
  have binds := sound.bind held undefined pointer usable
  refine yields_bind (yields_bind (yields_ofSymbols (Symbols.define_eq held undefined definition) ?_))
  refine yields_setSymbols (yields_modify ⟨binds, fun mentioned member => ?_⟩)
  obtain rfl : mentioned = symbol := List.mem_singleton.mp member
  refine .inr (.inr ?_)
  rw [boundNames_append]
  exact List.mem_append_right _ (List.mem_singleton_self _)

theorem yields_declare {hint : String} {type : CppType} {binding : Cpp.Binding} :
    Yields (declare hint type binding) d fails fun symbol next =>
      next = { d with symbols := d.symbols.add symbol } ∧ symbol.name ∉ d.symbols.names ∧
        symbol.binding = binding := by
  have free := Symbols.notMem_names_declare d.symbols hint type binding
  exact yields_bind (yields_get (yields_bind (yields_setSymbols (yields_pure ⟨rfl, free, rfl⟩))))

theorem yields_bindAdded (sound : d.Sound users) {symbol : Cpp.Symbol} (free : symbol.name ∉ d.symbols.names)
    (pointer : symbol.binding = .pointer) {definition : Cpp.Expr} (usable : d.Usable users definition) :
    Yields (bind symbol definition) { d with symbols := d.symbols.add symbol } fails fun _ next =>
      Binds users [] d next ∧ next.Usable users (.reference symbol) := by
  have added := sound.add free (by rw [pointer]; decide)
  have held := Symbols.find?_add free symbol.name
  rw [if_pos rfl] at held
  have usableToo : Usable users { d with symbols := d.symbols.add symbol } definition :=
    fun mentioned member => mayMention_mono (Symbols.IsInline.add free) id (usable mentioned member)
  refine (yields_bindSymbol added held rfl pointer usableToo).mono fun _ next bound => ?_
  exact ⟨Binds.of_add free bound.1, bound.2⟩

theorem yields_bindNew (sound : d.Sound users) {template : String} {arg : CppType} {definition : Cpp.Expr}
    (usable : d.Usable users definition) :
    Yields (Automation.bindNew template arg definition) d fails
      fun e next => Binds users [] d next ∧ next.Usable users e := by
  refine yields_declare.bind fun symbol later ⟨same, free, pointer⟩ => ?_
  rw [same]
  exact (yields_bindAdded sound free pointer usable).bind fun _ next bound => yields_pure bound

theorem yields_symbolOf_declared (sound : d.Sound users) {id : ObjectId} (role : id.role = .declared)
    (known : id.name ∈ users) (awaits : d.symbols.Awaits id.name) (type : Option CppType) :
    Yields (symbolOf id type .pointer) d fails fun symbol next =>
      Binds users [] d next ∧ symbol.name = id.name ∧ ∃ found, next.symbols.find? symbol.name = some found ∧
        found.definition = none ∧ found.symbol.binding = .pointer := by
  obtain ⟨found, held, undefined⟩ := awaits
  obtain ⟨same, heldToo, pointer⟩ := sound.declared id.name known
  cases held.symm.trans heldToo
  have own := Symbols.name_of_find? held
  have leads : Entries.get? id.name d.symbols.aliases = some id.name := by
    rw [sound.aliases, if_pos known]
  have heldOwn : d.symbols.find? found.symbol.name = some found := by rw [own]; exact held
  -- the name was declared ahead, so all that changes is its type
  let refined : Cpp.Symbol := ⟨found.symbol.name, type.getD found.symbol.type, .pointer⟩
  let changed : Declaration := { found with symbol := refined }
  have binds := @Sound.refine users d sound found changed heldOwn undefined pointer.symm undefined
  have now := @Symbols.find?_replace_self d.symbols found changed heldOwn
  rw [symbolOf, role]
  refine yields_bind (yields_get ?_)
  rw [Symbols.resolve_eq leads held]
  refine yields_bind (yields_ofSymbols (Symbols.refine_eq heldOwn undefined type .pointer) ?_)
  refine yields_bind (yields_setSymbols (yields_pure ⟨binds, own, changed, now, undefined, rfl⟩))

/-- An object of the configuration is bound under the name that the user gave to it, if there is one. -/
theorem yields_bindGlobal (sound : d.Sound users) {id : ObjectId} (object : id.role ≠ .used)
    (awaits : AwaitsAll users d id.ownNames) {definition : Cpp.Expr} (usable : d.Usable users definition)
    (type : Option CppType) :
    Yields (bindGlobal id definition type) d fails
      fun symbol next => Binds users id.ownNames d next ∧ next.Usable users (.reference symbol) := by
  cases role : id.role with
  | used => exact absurd role object
  | generated =>
    have none : id.ownNames = [] := if_neg (by rw [role]; decide)
    rw [none, bindGlobal, symbolOf, role]
    refine yields_declare.bind fun symbol later ⟨same, free, pointer⟩ => ?_
    rw [same]
    exact (yields_bindAdded sound free pointer usable).bind fun _ next bound => yields_pure bound
  | declared =>
    have own : id.ownNames = [id.name] := if_pos role
    rw [own] at awaits ⊢
    have member := List.mem_singleton_self id.name
    have symbolOf := @yields_symbolOf_declared users d fails sound id role (awaits.known _ member)
      (awaits.each _ member) type
    refine symbolOf.bind fun symbol later ⟨refined, same, found, held, undefined, pointer⟩ => ?_
    have bindSymbol := @yields_bindSymbol users later fails refined.sound symbol found held undefined pointer
      definition (refined.usable usable)
    refine bindSymbol.bind fun _ next ⟨bound, mention⟩ => yields_pure ⟨?_, mention⟩
    rw [← same]
    exact refined.trans bound

end Build

end DeviceConfig
