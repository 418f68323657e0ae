import DeviceConfig.Proofs.Program.Symbols
import Mathlib.Data.List.Induction

/-!
What any sequence of operations leaves of the names that it begins with: each keeps its place, and what has a
definition is not changed any more (`Symbols.keeps_afterAll`). The user's names lead to what was declared for
them last (`Symbols.get?_aliases_afterAll`).
-/

namespace DeviceConfig

namespace Symbols

/-- What can be done to the names of a program. -/
inductive Operation where
  | declare (hint : String) (type : CppType) (binding : Cpp.Binding)
  | declareObject (id : ObjectId) (binding : Cpp.Binding)
  | enter (component : String)
  | refine (symbol : Cpp.Symbol) (type : Option CppType) (binding : Cpp.Binding)
  | define (symbol : Cpp.Symbol) (definition : Cpp.Expr)

/-- The names after an operation. One that fails leaves them as they are. -/
def after (s : Symbols) : Operation → Symbols
  | .declare hint type binding => (s.declare hint type binding).2
  | .declareObject id binding => (s.declareObject id binding).2
  | .enter component => { s with component := component }
  | .refine symbol type binding =>
    match s.refine symbol type binding with
    | .ok (_, next) => next
    | .error _ => s
  | .define symbol definition =>
    match s.define symbol definition with
    | .ok next => next
    | .error _ => s

def afterAll (s : Symbols) (operations : List Operation) : Symbols := operations.foldl after s

namespace Operation

/-- The symbol that the operation declares. -/
def declared? (s : Symbols) : Operation → Option Cpp.Symbol
  | declare hint type binding => some (s.declare hint type binding).1
  | declareObject id binding => some (s.declareObject id binding).1
  | _ => none

/-- What the name of the declared symbol is made from. -/
def hint? : Operation → Option String
  | declare hint _ _ => some hint
  | declareObject id _ => some id.name
  | _ => none

/-- The name of the user's that leads to the declared symbol from now on. -/
def alias? : Operation → Option String
  | declareObject id _ => if id.role = .declared then some id.name else none
  | _ => none

end Operation

/-- The symbols that operations declare, one after the other. -/
def declaredBy (s : Symbols) : List Operation → List Cpp.Symbol
  | [] => []
  | operation :: rest => (operation.declared? s).toList ++ (s.after operation).declaredBy rest

/-- Every declaration keeps its place and its name, and if it has a definition, it stays what it is. -/
def Keeps (s t : Symbols) : Prop :=
  ∀ (i : Nat) (found : Declaration), s.declarations[i]? = some found →
    ∃ later, t.declarations[i]? = some later ∧ later.symbol.name = found.symbol.name ∧
      (found.definition.isSome = true → later = found)

variable {s t u : Symbols} {found changed : Declaration} {name : String}

section Keeps

theorem Keeps.refl (s : Symbols) : s.Keeps s := fun _ found here => ⟨found, here, rfl, fun _ => rfl⟩

theorem Keeps.trans (first : s.Keeps t) (second : t.Keeps u) : s.Keeps u := by
  intro i found here
  obtain ⟨later, there, named, same⟩ := first i found here
  obtain ⟨last, atLast, namedToo, sameToo⟩ := second i later there
  refine ⟨last, atLast, namedToo.trans named, fun defined => ?_⟩
  obtain rfl := same defined
  exact sameToo defined

theorem Keeps.of_declarations (same : t.declarations = s.declarations) : s.Keeps t := by
  intro i found here
  rw [same]
  exact Keeps.refl s i found here

theorem Keeps.find? (keeps : s.Keeps t) (differ : t.names.Nodup) (held : s.find? name = some found)
    (defined : found.definition.isSome = true) : t.find? name = some found := by
  obtain ⟨i, here⟩ := List.mem_iff_getElem?.mp (List.mem_of_find?_eq_some held)
  obtain ⟨later, there, -, same⟩ := keeps i found here
  obtain rfl := same defined
  rw [← name_of_find? held]
  exact find?_of_mem differ (List.mem_of_getElem? there)

theorem Keeps.isDefined (keeps : s.Keeps t) (differ : t.names.Nodup) (defined : s.IsDefined name) :
    t.IsDefined name := by
  obtain ⟨found, held, given⟩ := defined
  exact ⟨found, keeps.find? differ held given, given⟩

theorem keeps_add (s : Symbols) (symbol : Cpp.Symbol) : s.Keeps (s.add symbol) := by
  intro i found here
  obtain ⟨inside, -⟩ := List.getElem?_eq_some_iff.mp here
  refine ⟨found, ?_, rfl, fun _ => rfl⟩
  rw [add, List.getElem?_append_left inside, here]

theorem keeps_replace (differ : s.names.Nodup) (held : s.find? changed.symbol.name = some found)
    (undefined : found.definition = none) : s.Keeps (s.replace changed) := by
  intro i declaration here
  have there : (s.replace changed).declarations[i]? =
      some (if declaration.symbol.name == changed.symbol.name then changed else declaration) := by
    simp [replace, here]
  by_cases same : declaration.symbol.name = changed.symbol.name
  · rw [if_pos (beq_iff_eq.mpr same)] at there
    refine ⟨changed, there, same.symm, fun defined => ?_⟩
    -- no other declaration has this name, and the one that is replaced has no definition
    have own := find?_of_mem differ (List.mem_of_getElem? here)
    rw [same, held] at own
    cases own
    rw [undefined] at defined
    cases defined
  · rw [if_neg (mt beq_iff_eq.mp same)] at there
    exact ⟨declaration, there, rfl, fun _ => rfl⟩

end Keeps

section Step

/-- All that an operation can do to the declarations. -/
theorem after_cases (s : Symbols) (operation : Operation) :
    (∃ symbol, operation.declared? s = some symbol ∧ symbol.name ∉ s.names ∧
      (s.after operation).declarations = (s.add symbol).declarations) ∨
    operation.declared? s = none ∧ ((s.after operation).declarations = s.declarations ∨
      ∃ found changed, s.find? changed.symbol.name = some found ∧ found.definition = none ∧
        s.after operation = s.replace changed) := by
  cases operation with
  | declare hint type binding => exact .inl ⟨_, rfl, notMem_names_declare s hint type binding, rfl⟩
  | declareObject id binding =>
    refine .inl ⟨_, rfl, ?_, ?_⟩
    · rw [declareObject_fst]
      exact notMem_names_declare s id.name id.type binding
    · rw [after, declareObject_declarations, declareObject_fst]
      rfl
  | enter component => exact .inr ⟨rfl, .inl rfl⟩
  | refine symbol type binding =>
    refine .inr ⟨rfl, ?_⟩
    rw [after]
    cases read : s.refine symbol type binding with
    | error e => exact .inl rfl
    | ok result =>
      obtain ⟨found, refined, held, undefined, rfl, rfl⟩ := refine_eq_ok_iff.mp read
      have own := name_of_find? held
      exact .inr ⟨found, _, own ▸ held, undefined, rfl⟩
  | define symbol definition =>
    refine .inr ⟨rfl, ?_⟩
    rw [after]
    cases read : s.define symbol definition with
    | error e => exact .inl rfl
    | ok next =>
      obtain ⟨found, held, undefined, rfl⟩ := define_eq_ok_iff.mp read
      have own := name_of_find? held
      exact .inr ⟨found, _, own ▸ held, undefined, rfl⟩

theorem names_after (s : Symbols) (operation : Operation) :
    (s.after operation).names = s.names ++ (operation.declared? s).toList.map (·.name) := by
  rcases s.after_cases operation with ⟨symbol, declared, -, same⟩ | ⟨none, same | ⟨found, changed, -, -, same⟩⟩
  · simp [declared, names, same, add]
  · simp [none, names, same]
  · simp [none, same, names_replace]

theorem nodup_after (differ : s.names.Nodup) (operation : Operation) : (s.after operation).names.Nodup := by
  rw [names_after]
  rcases s.after_cases operation with ⟨symbol, declared, free, -⟩ | ⟨none, -⟩
  · rw [declared]
    show (s.names ++ [symbol.name]).Nodup
    rw [← List.concat_eq_append, List.nodup_concat]
    exact ⟨free, differ⟩
  · simpa [none] using differ

theorem keeps_after (differ : s.names.Nodup) (operation : Operation) : s.Keeps (s.after operation) := by
  rcases s.after_cases operation with
    ⟨symbol, -, -, same⟩ | ⟨-, same | ⟨found, changed, held, undefined, same⟩⟩
  · exact (s.keeps_add symbol).trans (.of_declarations same)
  · exact .of_declarations same
  · rw [same]
    exact keeps_replace differ held undefined

theorem get?_aliases_after (s : Symbols) (operation : Operation) (name : String) :
    Entries.get? name (s.after operation).aliases =
      if operation.alias? = some name then (operation.declared? s).map (·.name)
      else Entries.get? name s.aliases := by
  cases operation with
  | declare hint type binding => rfl
  | declareObject id binding =>
    rw [after, declareObject_aliases, Operation.alias?, Operation.declared?]
    by_cases own : id.role = .declared
    · simp [own, Entries.get?_setSorted]
    · simp [own]
  | enter component => rfl
  | refine symbol type binding =>
    rw [after]
    cases read : s.refine symbol type binding with
    | error e => rfl
    | ok result =>
      obtain ⟨found, refined, -, -, -, rfl⟩ := refine_eq_ok_iff.mp read
      rfl
  | define symbol definition =>
    rw [after]
    cases read : s.define symbol definition with
    | error e => rfl
    | ok next =>
      obtain ⟨found, -, -, rfl⟩ := define_eq_ok_iff.mp read
      rfl

theorem isName_of_declared? {operation : Operation} {symbol : Cpp.Symbol}
    (declared : operation.declared? s = some symbol) : Cpp.isName symbol.name = true := by
  cases operation with
  | declare hint type binding =>
    cases declared
    exact Cpp.isName_fresh (Cpp.isName_toName hint) s.names
  | declareObject id binding =>
    cases declared
    rw [declareObject_fst]
    exact Cpp.isName_fresh (Cpp.isName_toName id.name) s.names
  | _ => cases declared

theorem isFirstFree_of_declared? {operation : Operation} {hint : String} {symbol : Cpp.Symbol}
    (made : operation.hint? = some hint) (declared : operation.declared? s = some symbol) :
    Cpp.IsFirstFree (Cpp.toName hint) s.names symbol.name := by
  cases operation with
  | declare hint type binding =>
    cases made
    cases declared
    exact Cpp.isFirstFree_fresh _ s.names
  | declareObject id binding =>
    cases made
    cases declared
    rw [declareObject_fst]
    exact Cpp.isFirstFree_fresh _ s.names
  | _ => cases declared

/-- A name is given a definition only while it has none, and then has this one. -/
theorem find?_define {symbol : Cpp.Symbol} {definition : Cpp.Expr}
    (done : s.define symbol definition = .ok t) :
    ∃ found, s.find? symbol.name = some found ∧ found.definition = none ∧
      t.find? symbol.name = some { found with definition := some definition } := by
  obtain ⟨found, held, undefined, rfl⟩ := define_eq_ok_iff.mp done
  refine ⟨found, held, undefined, ?_⟩
  rw [find?_replace, if_pos (name_of_find? held).symm, held, Option.map_some]

end Step

section Run

theorem afterAll_append (s : Symbols) (operations others : List Operation) :
    s.afterAll (operations ++ others) = (s.afterAll operations).afterAll others := List.foldl_append

theorem names_afterAll (s : Symbols) (operations : List Operation) :
    (s.afterAll operations).names = s.names ++ (s.declaredBy operations).map (·.name) := by
  induction operations generalizing s with
  | nil => simp [afterAll, declaredBy]
  | cons operation rest ih =>
    have whole : s.afterAll (operation :: rest) = (s.after operation).afterAll rest := rfl
    rw [whole, ih, names_after, declaredBy, List.map_append, List.append_assoc]

theorem nodup_afterAll (differ : s.names.Nodup) (operations : List Operation) :
    (s.afterAll operations).names.Nodup := by
  induction operations generalizing s with
  | nil => exact differ
  | cons operation rest ih => exact ih (nodup_after differ operation)

theorem keeps_afterAll (differ : s.names.Nodup) (operations : List Operation) :
    s.Keeps (s.afterAll operations) := by
  induction operations generalizing s with
  | nil => exact .refl s
  | cons operation rest ih => exact (keeps_after differ operation).trans (ih (nodup_after differ operation))

theorem isName_of_mem_declaredBy {operations : List Operation} {symbol : Cpp.Symbol}
    (member : symbol ∈ s.declaredBy operations) : Cpp.isName symbol.name = true := by
  induction operations generalizing s with
  | nil => cases member
  | cons operation rest ih =>
    rcases List.mem_append.mp member with here | later
    · exact isName_of_declared? (Option.mem_toList.mp here)
    · exact ih later

/-- The name was declared as the symbol by one of the operations, and by none after it. -/
def DeclaredLast (operations : List Operation) (name : String) (symbol : Cpp.Symbol) : Prop :=
  ∃ before operation later, operations = before ++ operation :: later ∧ operation.alias? = some name ∧
    operation.declared? (empty.afterAll before) = some symbol ∧ ∀ other ∈ later, other.alias? ≠ some name

theorem declaredLast_append_iff {operations : List Operation} {last : Operation} {symbol : Cpp.Symbol} :
    DeclaredLast (operations ++ [last]) name symbol ↔
      if last.alias? = some name then last.declared? (empty.afterAll operations) = some symbol
      else DeclaredLast operations name symbol := by
  constructor
  · rintro ⟨before, operation, later, whole, own, declared, others⟩
    rcases append_last_eq_iff.mp whole with ⟨rfl, rfl, rfl⟩ | ⟨rest, rfl, rfl⟩
    · rwa [if_pos own]
    · rw [if_neg (others last (by simp))]
      exact ⟨before, operation, rest, rfl, own, declared, fun other member => others other (by simp [member])⟩
  · split
    · rename_i own
      intro declared
      exact ⟨operations, last, [], rfl, own, declared, fun _ member => nomatch member⟩
    · rename_i other
      rintro ⟨before, operation, later, rfl, own, declared, others⟩
      refine ⟨before, operation, later ++ [last], by simp, own, declared, fun another member => ?_⟩
      rcases List.mem_append.mp member with inLater | isLast
      · exact others another inLater
      · rwa [List.mem_singleton.mp isLast]

theorem get?_aliases_afterAll (operations : List Operation) (name target : String) :
    Entries.get? name (empty.afterAll operations).aliases = some target ↔
      ∃ symbol, DeclaredLast operations name symbol ∧ symbol.name = target := by
  induction operations using List.reverseRecOn with
  | nil => simp [afterAll, empty, Entries.get?, DeclaredLast]
  | append_singleton operations last ih =>
    have whole : empty.afterAll (operations ++ [last]) = (empty.afterAll operations).after last :=
      afterAll_append empty operations [last]
    rw [whole, get?_aliases_after]
    simp only [declaredLast_append_iff]
    split
    · exact Option.map_eq_some_iff
    · exact ih

theorem mem_names_of_declaredLast {operations : List Operation} {symbol : Cpp.Symbol}
    (last : DeclaredLast operations name symbol) : symbol.name ∈ (empty.afterAll operations).names := by
  obtain ⟨before, operation, later, rfl, -, declared, -⟩ := last
  have whole : empty.afterAll (before ++ operation :: later) =
      ((empty.afterAll before).after operation).afterAll later := afterAll_append empty before (operation :: later)
  rw [whole, names_afterAll, names_after, declared]
  simp

end Run

/-- Names are made up so that they differ, and are never taken back: whatever operations follow, what was
    declared keeps its place and what was defined stays as it is. The user's names lead to the symbols that were
    declared for them last. -/
theorem declarations_afterAll (operations later : List Operation) :
    (empty.afterAll operations).names = (empty.declaredBy operations).map (·.name) ∧
    ((empty.declaredBy operations).map (·.name)).Nodup ∧
    (∀ symbol ∈ empty.declaredBy operations, Cpp.isName symbol.name = true) ∧
    (∀ (operation : Operation) hint symbol, operation.hint? = some hint →
      operation.declared? (empty.afterAll operations) = some symbol →
      Cpp.IsFirstFree (Cpp.toName hint) (empty.afterAll operations).names symbol.name) ∧
    (empty.afterAll operations).Keeps (empty.afterAll (operations ++ later)) ∧
    (∀ symbol definition next, (empty.afterAll operations).define symbol definition = .ok next →
      ∃ found, (empty.afterAll operations).find? symbol.name = some found ∧ found.definition = none ∧
        next.find? symbol.name = some { found with definition := some definition }) ∧
    ∀ name target, Entries.get? name (empty.afterAll operations).aliases = some target ↔
      ∃ symbol, DeclaredLast operations name symbol ∧ symbol.name = target ∧
        target ∈ (empty.afterAll operations).names := by
  have none : empty.names.Nodup := List.nodup_nil
  have names : (empty.afterAll operations).names = (empty.declaredBy operations).map (·.name) :=
    names_afterAll empty operations
  refine ⟨names, ?_, fun _ => isName_of_mem_declaredBy, fun _ _ _ => isFirstFree_of_declared?, ?_,
    fun _ _ _ => find?_define, fun name target => ?_⟩
  · rw [← names]
    exact nodup_afterAll none operations
  · rw [afterAll_append]
    exact keeps_afterAll (nodup_afterAll none operations) later
  · rw [get?_aliases_afterAll]
    constructor
    · rintro ⟨symbol, last, rfl⟩
      exact ⟨symbol, last, rfl, mem_names_of_declaredLast last⟩
    · rintro ⟨symbol, last, same, -⟩
      exact ⟨symbol, last, same⟩

end Symbols

end DeviceConfig
