import DeviceConfig.CompileError
import DeviceConfig.Cpp.Expr
import DeviceConfig.Cpp.Name

/-!
The names of a program. A name is declared once, may be refined as long as it has no definition, and is
defined at most once; it is never taken back.
-/

namespace DeviceConfig

structure Declaration where
  symbol : Cpp.Symbol
  definition : Option Cpp.Expr
  component : String

structure Symbols where
  /-- In the order in which they were made; their names differ. -/
  declarations : List Declaration
  /-- The names of the configuration and what they were declared as, in the order of the former. -/
  aliases : Entries String
  /-- The component on whose behalf names are declared. -/
  component : String

namespace Symbols

def empty : Symbols := ⟨[], [], "core"⟩

def names (s : Symbols) : List String := s.declarations.map (·.symbol.name)

def find? (s : Symbols) (name : String) : Option Declaration :=
  s.declarations.find? (·.symbol.name == name)

/-- The symbol as it is declared now, in the place of a copy that may be older. -/
def current (s : Symbols) (symbol : Cpp.Symbol) : Cpp.Symbol :=
  match s.find? symbol.name with
  | some declaration => declaration.symbol
  | none => symbol

def undefined (s : Symbols) : List Cpp.Symbol :=
  (s.declarations.filter (·.definition.isNone)).map (·.symbol)

def add (s : Symbols) (symbol : Cpp.Symbol) : Symbols :=
  { s with declarations := s.declarations ++ [⟨symbol, none, s.component⟩] }

/-- Declares the name nearest to the hint that is free. -/
def declare (s : Symbols) (hint : String) (type : CppType) (binding : Cpp.Binding) :
    Cpp.Symbol × Symbols :=
  let symbol : Cpp.Symbol := ⟨Cpp.fresh (Cpp.toName hint) s.names, type, binding⟩
  (symbol, s.add symbol)

/-- Declares an object of the configuration. If the user named it, the user's name leads to it from
    now on. -/
def declareObject (s : Symbols) (id : ObjectId) (binding : Cpp.Binding) : Cpp.Symbol × Symbols :=
  let (symbol, next) := s.declare id.name id.type binding
  if id.role = .declared then
    (symbol, { next with aliases := Entries.setSorted id.name symbol.name next.aliases })
  else (symbol, next)

/-- What a name of the configuration was declared as. -/
def resolve (s : Symbols) (name : String) : Except CompileError Cpp.Symbol :=
  match (Entries.get? name s.aliases).bind s.find? with
  | some declaration => .ok declaration.symbol
  | none => .error (.undeclared name s.component (Entries.keys s.aliases))

def declaration (s : Symbols) (symbol : Cpp.Symbol) : Except CompileError Declaration :=
  match s.find? symbol.name with
  | some found => .ok found
  | none => .error (.undeclared symbol.name s.component s.names)

/-- The expression that stands for a declared symbol. -/
def reference (s : Symbols) (symbol : Cpp.Symbol) : Except CompileError Cpp.Expr := do
  let found ← s.declaration symbol
  return .reference found.symbol

/-- The declaration of a symbol that has no definition yet. -/
def undefinedDeclaration (s : Symbols) (symbol : Cpp.Symbol) : Except CompileError Declaration := do
  let found ← s.declaration symbol
  if found.definition.isSome then throw (.redefined symbol.name s.component)
  return found

/-- Puts another declaration in the place of the one of the same name. -/
def replace (s : Symbols) (changed : Declaration) : Symbols :=
  { s with
    declarations := s.declarations.map fun declaration =>
      if declaration.symbol.name == changed.symbol.name then changed else declaration }

/-- Changes how a symbol without a definition is bound and, if a type is given, its type. -/
def refine (s : Symbols) (symbol : Cpp.Symbol) (type : Option CppType) (binding : Cpp.Binding) :
    Except CompileError (Cpp.Symbol × Symbols) := do
  let found ← s.undefinedDeclaration symbol
  let refined : Cpp.Symbol := ⟨found.symbol.name, type.getD found.symbol.type, binding⟩
  return (refined, s.replace { found with symbol := refined })

def define (s : Symbols) (symbol : Cpp.Symbol) (definition : Cpp.Expr) :
    Except CompileError Symbols := do
  let found ← s.undefinedDeclaration symbol
  return s.replace { found with definition := some definition }

def unvisited (s : Symbols) (visited : List String) : Nat :=
  s.names.countP fun name => !visited.contains name

end Symbols

theorem countP_lt_countP {α : Type} {p q : α → Bool} {l : List α} {a : α}
    (weaker : ∀ x, p x = true → q x = true) (mem : a ∈ l) (left : p a = false) (right : q a = true) :
    l.countP p < l.countP q := by
  induction l with
  | nil => cases mem
  | cons first rest ih =>
    have below : rest.countP p ≤ rest.countP q := List.countP_mono_left fun x _ => weaker x
    rw [List.countP_cons, List.countP_cons]
    rcases List.mem_cons.mp mem with same | inRest
    · subst same
      rw [left, right]
      exact Nat.lt_succ_of_le below
    · have less := ih inRest
      cases here : p first with
      | false => exact Nat.lt_of_lt_of_le less (Nat.le_add_right _ _)
      | true =>
        rw [weaker first here]
        exact Nat.add_lt_add_right less _

theorem unvisited_of_cons {visited : List String} {name other : String}
    (kept : (!(name :: visited).contains other) = true) : (!visited.contains other) = true := by
  simp only [List.contains_cons, Bool.not_or, Bool.and_eq_true] at kept
  exact kept.2

namespace Symbols

theorem name_of_find? {s : Symbols} {name : String} {d : Declaration} (h : s.find? name = some d) :
    d.symbol.name = name := by
  simpa using List.find?_some h

theorem mem_names_of_find? {s : Symbols} {name : String} {d : Declaration}
    (h : s.find? name = some d) : name ∈ s.names :=
  List.mem_map.mpr ⟨d, List.mem_of_find?_eq_some h, name_of_find? h⟩

theorem unvisited_cons_le (s : Symbols) (visited : List String) (name : String) :
    s.unvisited (name :: visited) ≤ s.unvisited visited :=
  List.countP_mono_left fun _ _ => unvisited_of_cons

theorem unvisited_cons_lt {s : Symbols} {visited : List String} {name : String} {d : Declaration}
    (found : s.find? name = some d) (fresh : visited.contains name = false) :
    s.unvisited (name :: visited) < s.unvisited visited :=
  countP_lt_countP (fun _ => unvisited_of_cons) (mem_names_of_find? found)
    (by simp only [List.contains_cons, beq_self_eq_true, Bool.true_or, Bool.not_true])
    (by simp only [fresh, Bool.not_false])

end Symbols

end DeviceConfig
