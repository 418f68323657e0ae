import DeviceConfig.Program.Symbols
import DeviceConfig.Text.Indent

/-!
Expressions and statements as text. A name is written if it is declared and defined; if it is bound
inline, its definition is written in its place. Types and bindings are those that the names have when
the text is made.
-/

namespace DeviceConfig

def indentStep : String := "  "

namespace Cpp

/-- What stands between an object and its member. -/
def accessMark (s : Symbols) : Expr → String
  | .reference symbol => if (s.current symbol).binding = .pointer then "->" else "."
  | _ => "."

def typeArgsText : List CppType → String
  | [] => ""
  | types => "<" ++ String.intercalate ", " (types.map CppType.text) ++ ">"

def signatureText (capture : String) (parameters : List Parameter) (result : Option CppType) :
    String :=
  let start := "[" ++ capture ++ "](" ++ String.intercalate ", " (parameters.map Parameter.text) ++ ")"
  match result with
  | some type => start ++ " -> " ++ type.text
  | none => start

def bindingText (symbol : Symbol) (definition : String) : String :=
  match symbol.binding with
  | .pointer => symbol.name ++ " = " ++ definition
  | .value => symbol.type.text ++ " " ++ symbol.name ++ " = " ++ definition
  | .inline => "auto " ++ symbol.name ++ " = " ++ definition

def statementText (text : String) : String := Text.indentInner indentStep (text ++ ";")

mutual

/-- The text of an expression, given the texts of the names. -/
def Expr.textWith (s : Symbols) (nameText : Symbol → Except CompileError String) :
    Expr → Except CompileError String
  | .literal value => .ok value.text
  | .raw text => .ok text
  | .reference symbol => nameText symbol
  | .member receiver name => do
    let object ← receiver.textWith s nameText
    return object ++ accessMark s receiver ++ name
  | .method receiver name typeArgs args => do
    let object ← receiver.textWith s nameText
    let texts ← argTexts s nameText args
    return object ++ accessMark s receiver ++ name ++ typeArgsText typeArgs ++
      "(" ++ String.intercalate ", " texts ++ ")"
  | .function name args => do
    let texts ← argTexts s nameText args
    return name ++ "(" ++ String.intercalate ", " texts ++ ")"
  | .construct type args => do
    let texts ← argTexts s nameText args
    return type.text ++ "(" ++ String.intercalate ", " texts ++ ")"
  | .allocate type args => do
    let texts ← argTexts s nameText args
    return "new " ++ type.text ++ "(" ++ String.intercalate ", " texts ++ ")"
  | .aggregate items => do
    let texts ← argTexts s nameText items
    return "\x7b" ++ String.intercalate ", " texts ++ "\x7d"
  | .lambda capture parameters result body => do
    let texts ← bodyTexts s nameText body
    let lines := String.join (texts.map fun text => text ++ "\n")
    return signatureText capture parameters result ++ " \x7b\n" ++ lines ++ "\x7d"
  | .concat parts => do
    let texts ← argTexts s nameText parts
    return String.join texts

def argTexts (s : Symbols) (nameText : Symbol → Except CompileError String) :
    List Expr → Except CompileError (List String)
  | [] => .ok []
  | arg :: rest => do
    let text ← arg.textWith s nameText
    let texts ← argTexts s nameText rest
    return text :: texts

def Statement.textWith (s : Symbols) (nameText : Symbol → Except CompileError String) :
    Statement → Except CompileError String
  | .line text => text.textWith s nameText
  | .run expression => do
    let text ← expression.textWith s nameText
    return statementText text
  | .bind symbol definition => do
    let text ← definition.textWith s nameText
    return statementText (bindingText (s.current symbol) text)

def bodyTexts (s : Symbols) (nameText : Symbol → Except CompileError String) :
    List Statement → Except CompileError (List String)
  | [] => .ok []
  | statement :: rest => do
    let text ← statement.textWith s nameText
    let texts ← bodyTexts s nameText rest
    return text :: texts

end

end Cpp

namespace Symbols

/-- The text of a name inside the definitions of the inline names `enclosing`. Each of these is a
    declared name and none comes twice, so the definitions end. -/
def nameText (s : Symbols) (enclosing : List String) (symbol : Cpp.Symbol) :
    Except CompileError String :=
  match _ : s.find? symbol.name with
  | none => .error (.undeclared symbol.name s.component s.names)
  | some declaration =>
    match declaration.definition with
    | none => .error (.unrenderable symbol.name declaration.component .undefined)
    | some definition =>
      if declaration.symbol.binding ≠ .inline then .ok symbol.name
      else if _ : enclosing.contains symbol.name = false then
        definition.textWith s fun inner => s.nameText (symbol.name :: enclosing) inner
      else .error (.unrenderable symbol.name declaration.component .selfReference)
termination_by s.unvisited enclosing
decreasing_by exact unvisited_cons_lt (by assumption) (by assumption)

end Symbols

namespace Cpp

def Expr.text (s : Symbols) (e : Expr) : Except CompileError String := e.textWith s (s.nameText [])

namespace Statement

def text (s : Symbols) (st : Statement) : Except CompileError String := st.textWith s (s.nameText [])

def global? (s : Symbols) (st : Statement) : Option String :=
  st.bound?.bind fun symbol =>
    let declared := s.current symbol
    if declared.binding = .pointer then
      some (declared.type.text ++ " *" ++ declared.name ++ ";")
    else none

end Statement

end Cpp

end DeviceConfig
