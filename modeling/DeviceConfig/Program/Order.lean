import DeviceConfig.Program.Symbols

/-!
Whether every local is bound before the statements that use it, be it in the definitions of the inline
names that they use.
-/

namespace DeviceConfig

/-- The position of the first statement that binds a name. -/
def boundAt? (statements : List Cpp.Statement) (name : String) : Option Nat :=
  statements.findIdx? fun statement => (statement.bound?.map (·.name)) == some name

namespace Symbols

/-- Of the `pending` symbols and those in the inline definitions that they lead to, the first local
    that is bound at `position` or later. -/
def usedEarly? (s : Symbols) (statements : List Cpp.Statement) (position : Nat)
    (visited : List String) (pending : List Cpp.Symbol) : Option Declaration :=
  match pending with
  | [] => none
  | symbol :: rest =>
    if _ : visited.contains symbol.name = false then
      match _ : s.find? symbol.name with
      | none => s.usedEarly? statements position (symbol.name :: visited) rest
      | some declaration =>
        match declaration.symbol.binding with
        | .value =>
          if (boundAt? statements symbol.name).any (position ≤ ·) then some declaration
          else s.usedEarly? statements position (symbol.name :: visited) rest
        | .pointer => s.usedEarly? statements position (symbol.name :: visited) rest
        | .inline =>
          let inner := (declaration.definition.map (·.references)).getD []
          s.usedEarly? statements position (symbol.name :: visited) (inner.reverse ++ rest)
    else s.usedEarly? statements position visited rest
termination_by (s.unvisited visited, pending.length)
decreasing_by
  · rcases Nat.lt_or_eq_of_le (unvisited_cons_le s visited symbol.name) with less | same
    · exact Prod.Lex.left _ _ less
    · rw [same]
      exact Prod.Lex.right _ (by simp)
  · exact Prod.Lex.left _ _ (unvisited_cons_lt (by assumption) (by assumption))
  · exact Prod.Lex.left _ _ (unvisited_cons_lt (by assumption) (by assumption))
  · exact Prod.Lex.left _ _ (unvisited_cons_lt (by assumption) (by assumption))
  · exact Prod.Lex.right _ (by simp)

/-- The first local, in the order of the statements from `position` on, that is used too early. -/
def usedEarlyFrom? (s : Symbols) (statements : List Cpp.Statement) (position : Nat) :
    List Cpp.Statement → Option Declaration
  | [] => none
  | statement :: rest =>
    match s.usedEarly? statements position [] statement.references.reverse with
    | some declaration => some declaration
    | none => s.usedEarlyFrom? statements (position + 1) rest

/-- Fails if a local is used by a statement before the one that binds it. -/
def checkOrder (s : Symbols) (statements : List Cpp.Statement) : Except CompileError Unit :=
  match s.usedEarlyFrom? statements 0 statements with
  | some early =>
    .error (.unrenderable early.symbol.name early.component .usedBeforeDefinition)
  | none => .ok ()

end Symbols

end DeviceConfig
