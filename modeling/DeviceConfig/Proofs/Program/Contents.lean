import DeviceConfig.Program.Text
import DeviceConfig.Proofs.CppType.Reading

/-!
What stands in expressions and statements: the types, the lambdas, and the inline names among the symbols.
-/

namespace DeviceConfig

namespace CppType

mutual

/-- The names that a type is made of, in the order of its text. -/
def names : CppType → List String
  | mk name args _ => name :: argNames args

def argNames : List CppType → List String
  | [] => []
  | arg :: rest => arg.names ++ argNames rest

end

theorem mem_argNames {args : List CppType} {name : String} :
    name ∈ argNames args ↔ ∃ arg ∈ args, name ∈ arg.names := by
  induction args with
  | nil => simp [argNames]
  | cons arg rest ih => simp [argNames, ih]

/-- The names of all types that there are. -/
def vocabulary : List String := knownNames ++ containers

/-- The type is made of names that there are. -/
def Known (type : CppType) : Prop := ∀ name ∈ type.names, name ∈ vocabulary

instance (type : CppType) : Decidable type.Known :=
  inferInstanceAs (Decidable (∀ name ∈ type.names, name ∈ vocabulary))

theorem known_mk {name : String} {args : List CppType} {isPointer : Bool} (known : name ∈ vocabulary)
    (each : ∀ arg ∈ args, arg.Known) : (mk name args isPointer).Known := by
  intro other member
  rcases List.mem_cons.mp member with rfl | inArgs
  · exact known
  · obtain ⟨arg, inside, held⟩ := mem_argNames.mp inArgs
    exact each arg inside other held

theorem WellFormed.known {type : CppType} (wellFormed : type.WellFormed) : type.Known := by
  induction wellFormed with
  | plain name isPointer known => exact known_mk (List.mem_append_left _ known) fun _ member => nomatch member
  | container name args isPointer known _ _ ih => exact known_mk (List.mem_append_right _ known) ih

end CppType

namespace Cpp

mutual

/-- The types that are written in an expression, in the order of the text. -/
def Expr.types : Expr → List CppType
  | .literal _ => []
  | .reference _ => []
  | .member receiver _ => receiver.types
  | .method receiver _ typeArgs args => receiver.types ++ typeArgs ++ argTypes args
  | .function _ args => argTypes args
  | .construct type args => type :: argTypes args
  | .allocate type args => type :: argTypes args
  | .aggregate items => argTypes items
  | .lambda _ parameters result body => parameters.map (·.type) ++ result.toList ++ bodyTypes body
  | .concat parts => argTypes parts
  | .raw _ => []

def argTypes : List Expr → List CppType
  | [] => []
  | arg :: rest => arg.types ++ argTypes rest

def Statement.types : Statement → List CppType
  | .line text => text.types
  | .run expression => expression.types
  | .bind _ definition => definition.types

def bodyTypes : List Statement → List CppType
  | [] => []
  | statement :: rest => statement.types ++ bodyTypes rest

end

mutual

/-- The lambdas that are written out in an expression, in the order of the text, but none of those inside them. -/
def Expr.lambdas : Expr → List Expr
  | .literal _ => []
  | .reference _ => []
  | .member receiver _ => receiver.lambdas
  | .method receiver _ _ args => receiver.lambdas ++ argLambdas args
  | .function _ args => argLambdas args
  | .construct _ args => argLambdas args
  | .allocate _ args => argLambdas args
  | .aggregate items => argLambdas items
  | .lambda capture parameters result body => [.lambda capture parameters result body]
  | .concat parts => argLambdas parts
  | .raw _ => []

def argLambdas : List Expr → List Expr
  | [] => []
  | arg :: rest => arg.lambdas ++ argLambdas rest

end

theorem Statement.types_eq (statement : Statement) : statement.types = statement.expression.types := by
  cases statement <;> rfl

/-- The names among these symbols that stand for their definitions. -/
def inlineNames (symbols : List Symbol) : List String := (symbols.filter (·.binding = .inline)).map (·.name)

@[simp] theorem inlineNames_append (symbols others : List Symbol) :
    inlineNames (symbols ++ others) = inlineNames symbols ++ inlineNames others := by
  simp [inlineNames]

/-- The inline names in an expression, as often as they are mentioned. -/
def Expr.uses (e : Expr) : List String := inlineNames e.references

def Statement.uses (statement : Statement) : List String := inlineNames statement.references

end Cpp

end DeviceConfig
