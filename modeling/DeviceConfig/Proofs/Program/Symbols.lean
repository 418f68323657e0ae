import DeviceConfig.Program.Symbols
import DeviceConfig.Proofs.Except
import DeviceConfig.Proofs.Lists
import DeviceConfig.Proofs.Program.Names
import DeviceConfig.Proofs.Value.Entries

/-!
What each change of the names does to the declaration that a name leads to, and when it is made.
-/

namespace DeviceConfig.Symbols

/-- The name stands for its definition, not for an object. -/
def IsInline (s : Symbols) (name : String) : Prop :=
  ∃ found, s.find? name = some found ∧ found.symbol.binding = .inline

def IsDefined (s : Symbols) (name : String) : Prop :=
  ∃ found, s.find? name = some found ∧ found.definition.isSome = true

variable {s : Symbols} {symbol : Cpp.Symbol} {found : Declaration}

theorem find?_eq_none_iff {name : String} : s.find? name = none ↔ name ∉ s.names := find?_key_eq_none_iff

theorem notMem_names_declare (s : Symbols) (hint : String) (type : CppType) (binding : Cpp.Binding) :
    (s.declare hint type binding).1.name ∉ s.names := Cpp.fresh_notMem _ _

theorem find?_add (free : symbol.name ∉ s.names) (name : String) :
    (s.add symbol).find? name =
      if name = symbol.name then some ⟨symbol, none, s.component⟩ else s.find? name := by
  rw [find?, add, List.find?_append]
  by_cases same : name = symbol.name
  · have none : s.find? symbol.name = none := find?_eq_none_iff.mpr free
    rw [find?] at none
    rw [same, none, if_pos rfl]
    simp
  · have other : (symbol.name == name) = false := beq_false_of_ne (Ne.symm same)
    rw [if_neg same]
    simp [other, find?]

theorem find?_replace (changed : Declaration) (name : String) :
    (s.replace changed).find? name =
      if name = changed.symbol.name then (s.find? name).map fun _ => changed else s.find? name := by
  have asked : ((fun declaration : Declaration => declaration.symbol.name == name) ∘ fun declaration =>
      if declaration.symbol.name == changed.symbol.name then changed else declaration) =
      fun declaration => declaration.symbol.name == name := by
    funext declaration
    rw [Function.comp_apply]
    by_cases here : declaration.symbol.name = changed.symbol.name <;> simp [here]
  have mapped : (s.replace changed).find? name = (s.find? name).map fun declaration =>
      if declaration.symbol.name == changed.symbol.name then changed else declaration := by
    rw [find?, replace, List.find?_map, asked]
    rfl
  rw [mapped]
  cases held : s.find? name with
  | none => split <;> rfl
  | some declaration =>
    have own := name_of_find? held
    by_cases same : name = changed.symbol.name
    · rw [if_pos same, Option.map_some, Option.map_some, if_pos (beq_iff_eq.mpr (own.trans same))]
    · have other : ¬declaration.symbol.name = changed.symbol.name := own ▸ same
      rw [if_neg same, Option.map_some, if_neg (mt beq_iff_eq.mp other)]

theorem undefinedDeclaration_eq (held : s.find? symbol.name = some found)
    (undefined : found.definition = none) :
    s.undefinedDeclaration symbol = .ok found := by
  simp only [undefinedDeclaration, declaration, held, bind, Except.bind, undefined]
  rfl

theorem resolve_eq {name : String} (leads : Entries.get? name s.aliases = some name)
    (held : s.find? name = some found) : s.resolve name = .ok found.symbol := by
  simp only [resolve, leads, Option.bind_some, held]

theorem resolve_error {name : String} (absent : Entries.get? name s.aliases = none) :
    s.resolve name = .error (.undeclared name s.component (Entries.keys s.aliases)) := by
  simp only [resolve, absent, Option.bind_none]

theorem refine_eq (held : s.find? symbol.name = some found) (undefined : found.definition = none)
    (type : Option CppType) (binding : Cpp.Binding) :
    s.refine symbol type binding =
      .ok (⟨found.symbol.name, type.getD found.symbol.type, binding⟩,
        s.replace { found with symbol := ⟨found.symbol.name, type.getD found.symbol.type, binding⟩ }) := by
  simp only [refine, undefinedDeclaration_eq held undefined, bind, Except.bind]
  rfl

theorem define_eq (held : s.find? symbol.name = some found) (undefined : found.definition = none)
    (definition : Cpp.Expr) :
    s.define symbol definition = .ok (s.replace { found with definition := some definition }) := by
  simp only [define, undefinedDeclaration_eq held undefined, bind, Except.bind]
  rfl

theorem undefinedDeclaration_eq_ok_iff :
    s.undefinedDeclaration symbol = .ok found ↔
      s.find? symbol.name = some found ∧ found.definition = none := by
  constructor
  · intro read
    obtain ⟨other, held, rest⟩ := bind_eq_ok_iff.mp read
    obtain ⟨undefined, same⟩ := guard_eq_ok_iff.mp rest
    cases same
    rw [declaration] at held
    split at held
    · rename_i same
      cases held
      exact ⟨same, by simpa using undefined⟩
    · cases held
  · rintro ⟨held, undefined⟩
    exact undefinedDeclaration_eq held undefined

theorem refine_eq_ok_iff {type : Option CppType} {binding : Cpp.Binding} {result : Cpp.Symbol × Symbols} :
    s.refine symbol type binding = .ok result ↔
      ∃ found refined, s.find? symbol.name = some found ∧ found.definition = none ∧
        refined = ⟨found.symbol.name, type.getD found.symbol.type, binding⟩ ∧
        result = (refined, s.replace { found with symbol := refined }) := by
  constructor
  · intro read
    obtain ⟨found, own, rest⟩ := bind_eq_ok_iff.mp read
    obtain ⟨held, undefined⟩ := undefinedDeclaration_eq_ok_iff.mp own
    cases rest
    exact ⟨found, _, held, undefined, rfl, rfl⟩
  · rintro ⟨found, refined, held, undefined, rfl, rfl⟩
    exact refine_eq held undefined type binding

theorem define_eq_ok_iff {definition : Cpp.Expr} {next : Symbols} :
    s.define symbol definition = .ok next ↔
      ∃ found, s.find? symbol.name = some found ∧ found.definition = none ∧
        next = s.replace { found with definition := some definition } := by
  constructor
  · intro read
    obtain ⟨found, own, rest⟩ := bind_eq_ok_iff.mp read
    obtain ⟨held, undefined⟩ := undefinedDeclaration_eq_ok_iff.mp own
    cases rest
    exact ⟨found, held, undefined, rfl⟩
  · rintro ⟨found, held, undefined, rfl⟩
    exact define_eq held undefined definition

theorem declareObject_fst (s : Symbols) (id : ObjectId) (binding : Cpp.Binding) :
    (s.declareObject id binding).1 = (s.declare id.name id.type binding).1 := by
  by_cases own : id.role = .declared <;> simp [declareObject, declare, own]

theorem declareObject_declarations (s : Symbols) (id : ObjectId) (binding : Cpp.Binding) :
    (s.declareObject id binding).2.declarations = (s.declare id.name id.type binding).2.declarations := by
  by_cases own : id.role = .declared <;> simp [declareObject, declare, own]

theorem declareObject_aliases (s : Symbols) (id : ObjectId) (binding : Cpp.Binding) :
    (s.declareObject id binding).2.aliases =
      if id.role = .declared then Entries.setSorted id.name (s.declareObject id binding).1.name s.aliases
      else s.aliases := by
  by_cases own : id.role = .declared <;> simp [declareObject, declare, add, own]

theorem names_replace (s : Symbols) (changed : Declaration) : (s.replace changed).names = s.names := by
  rw [names, replace, List.map_map]
  refine List.map_congr_left fun declaration _ => ?_
  rw [Function.comp_apply]
  split
  · rename_i same
    exact (eq_of_beq same).symm
  · rfl

theorem find?_of_mem (differ : s.names.Nodup) (member : found ∈ s.declarations) :
    s.find? found.symbol.name = some found := (find?_key_eq_some_iff differ).mpr ⟨member, rfl⟩

end DeviceConfig.Symbols
