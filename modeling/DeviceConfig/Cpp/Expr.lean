import DeviceConfig.Cpp.Literal
import DeviceConfig.CppType.Basic

/-!
Expressions and statements of the generated program. They hold names as they were when the expression
was made; what a name stands for is looked up when the program is written out.
-/

namespace DeviceConfig.Cpp

/-- How an object of the generated program is bound to its name. -/
inductive Binding where
  /-- A local of the setup function. -/
  | value
  /-- A global pointer that the setup function assigns. -/
  | pointer
  /-- No object at all: the definition is written where the name is used. -/
  | inline
  deriving Repr, DecidableEq

structure Symbol where
  name : String
  type : CppType
  binding : Binding
  deriving Repr, DecidableEq

structure Parameter where
  name : String
  type : CppType
  deriving Repr, DecidableEq

namespace Parameter

def text (p : Parameter) : String := p.type.text ++ " " ++ p.name

end Parameter

mutual

inductive Expr where
  | literal (value : Literal)
  | reference (symbol : Symbol)
  /-- A member of an object, reached by a point or, through a pointer, by an arrow. -/
  | member (receiver : Expr) (name : String)
  | method (receiver : Expr) (name : String) (typeArgs : List CppType) (args : List Expr)
  | function (name : String) (args : List Expr)
  | construct (type : CppType) (args : List Expr)
  /-- An object that is never freed. -/
  | allocate (type : CppType) (args : List Expr)
  | aggregate (items : List Expr)
  | lambda (capture : String) (parameters : List Parameter) (result : Option CppType)
    (body : List Statement)
  /-- Parts of a line, with nothing between them. -/
  | concat (parts : List Expr)
  | raw (text : String)

inductive Statement where
  /-- A line of the user's code, as it is. -/
  | line (text : Expr)
  | run (expression : Expr)
  | bind (symbol : Symbol) (definition : Expr)

end

instance : Inhabited Expr := ⟨.raw ""⟩

namespace Expr

def null : Expr := literal .null

def bool (b : Bool) : Expr := literal (.bool b)

def int (n : Int64) : Expr := literal (.int n)

def float (x : Float) : Expr := literal (.float x)

def string (text : String) : Expr := literal (.string text)

/-- A method without template arguments. -/
def call (receiver : Expr) (name : String) (args : List Expr) : Expr :=
  method receiver name [] args

/-- The object and the operator before one of its members. -/
def accessed (receiver : Expr) : Expr := member receiver ""

/-- The global object of the application. -/
def app : Expr := raw "App"

end Expr

namespace Statement

def bound? : Statement → Option Symbol
  | line _ => none
  | run _ => none
  | bind symbol _ => some symbol

def expression : Statement → Expr
  | line text => text
  | run expression => expression
  | bind _ definition => definition

end Statement

mutual

/-- The symbols that stand in an expression, in the order of the text. -/
def Expr.references : Expr → List Symbol
  | .literal _ => []
  | .reference symbol => [symbol]
  | .member receiver _ => receiver.references
  | .method receiver _ _ args => receiver.references ++ argReferences args
  | .function _ args => argReferences args
  | .construct _ args => argReferences args
  | .allocate _ args => argReferences args
  | .aggregate items => argReferences items
  | .lambda _ _ _ body => bodyReferences body
  | .concat parts => argReferences parts
  | .raw _ => []

def argReferences : List Expr → List Symbol
  | [] => []
  | arg :: rest => arg.references ++ argReferences rest

/-- The symbols of the statements' expressions; the symbols that they bind are not among them. -/
def Statement.references : Statement → List Symbol
  | .line text => text.references
  | .run expression => expression.references
  | .bind _ definition => definition.references

def bodyReferences : List Statement → List Symbol
  | [] => []
  | statement :: rest => statement.references ++ bodyReferences rest

end

end DeviceConfig.Cpp
