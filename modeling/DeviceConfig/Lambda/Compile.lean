import DeviceConfig.Lambda.Calls
import DeviceConfig.Lambda.Header
import DeviceConfig.Program.Draft

/-!
Lambdas become code in two steps. The first reads the header, compares it with what is expected at the
place of the lambda, and declares a name; the second resolves the objects that the body mentions and
defines the name as the lambda. Between the two, code may already use the name.
-/

namespace DeviceConfig

namespace Lambda

def type : CppType := .named "lambda"

/-- A lambda with a name but without a body. -/
structure Pending where
  symbol : Cpp.Symbol
  parameters : List Cpp.Parameter
  result : Option CppType
  body : String

def Pending.reference (p : Pending) : Cpp.Expr := .reference p.symbol

/-- Whether a written result type is the expected one, where both are given. -/
def resultFits : Option CppType → Option CppType → Bool
  | some written, some expected => written = expected
  | _, _ => true

def signature (parameters : List Cpp.Parameter) (result : Option CppType) : Signature :=
  ⟨parameters.map (·.type), result⟩

/-- The header of a lambda where a signature is expected: the expected one if none is written. -/
def headerAt (path : Path) (parameters : List Cpp.Parameter) (result : Option CppType) :
    Option Header → Except CompileError Header
  | none => .ok ⟨parameters, result⟩
  | some written =>
    if written.parameters.map (·.type) = parameters.map (·.type) ∧
        resultFits written.result result then
      .ok ⟨written.parameters, written.result.or result⟩
    else
      .error (.wrongSignature path (signature parameters result)
        (signature written.parameters written.result))

/-- The header that a text has at its place, and its body. -/
def readAt (source : String) (path : Path) (parameters : List Cpp.Parameter)
    (result : Option CppType) : Except CompileError (Header × String) :=
  match read source with
  | .error fault => .error (.badLambda source fault)
  | .ok lambda => do
    let header ← headerAt path parameters result lambda.header
    return (header, lambda.body)

/-- The first step. -/
def declare (source : String) (path : Path) (parameters : List Cpp.Parameter)
    (result : Option CppType) : Build Pending := do
  match readAt source path parameters result with
  | .error e => throw e
  | .ok (header, body) =>
    let symbol ← Build.declare "lambda" type .inline
    return ⟨symbol, header.parameters, header.result, body⟩

def fragmentExpr (symbols : Symbols) : Fragment → Except CompileError Cpp.Expr
  | .text chars => .ok (.raw (String.ofList chars))
  | .object name access => do
    let symbol ← symbols.resolve name
    return if access then (Cpp.Expr.reference symbol).accessed else .reference symbol

def fragmentExprs (symbols : Symbols) : List Fragment → Except CompileError (List Cpp.Expr)
  | [] => .ok []
  | fragment :: rest => do
    let expr ← fragmentExpr symbols fragment
    let exprs ← fragmentExprs symbols rest
    return expr :: exprs

/-- The lines of a body with their objects resolved. -/
def bodyStatements (symbols : Symbols) : List (List Char) → Except CompileError (List Cpp.Statement)
  | [] => .ok []
  | line :: rest => do
    let parts ← fragmentExprs symbols (fragments line)
    let statements ← bodyStatements symbols rest
    return .line (.concat parts) :: statements

/-- The second step. -/
def Pending.define (p : Pending) : Build Cpp.Expr := do
  let body ← Build.ofSymbols fun symbols => bodyStatements symbols (Text.lines p.body.toList)
  Build.define p.symbol (.lambda "=" p.parameters p.result body)
  return p.reference

/-- Both steps. -/
def compile (source : String) (path : Path) (parameters : List Cpp.Parameter)
    (result : Option CppType) : Build Cpp.Expr := do
  let pending ← declare source path parameters result
  pending.define

end Lambda

namespace Node

/-- The text of a lambda; any other text counts as one. -/
def writtenCode (node : Node) : Build String :=
  match node.value with
  | .lambda code => return code
  | .string code => return code
  | other => Build.lacking node (.lambda other.kindName)

/-- Gives a lambda its name; its body is compiled later. -/
def lambdaAhead (node : Node) (parameters : List Cpp.Parameter) (result : Option CppType) :
    Build Lambda.Pending := do
  let source ← node.writtenCode
  Lambda.declare source node.path parameters result

/-- Gives a lambda its name and compiles its body. -/
def compileLambda (node : Node) (parameters : List Cpp.Parameter) (result : Option CppType) :
    Build Cpp.Expr := do
  let source ← node.writtenCode
  Lambda.compile source node.path parameters result

/-- A lambda, or what `literal` makes of another value. -/
def compileTemplatable (node : Node) (parameters : List Cpp.Parameter) (result : Option CppType)
    (literal : Value → Except CompileError Cpp.Expr) : Build Cpp.Expr := do
  match node.value with
  | .lambda _ => node.compileLambda parameters result
  | value =>
    match literal value with
    | .ok expr => return expr
    | .error e => throw e

end Node

end DeviceConfig
