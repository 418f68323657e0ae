import DeviceConfig.Cpp.Expr
import DeviceConfig.Cpp.Name
import DeviceConfig.CppType.Reader
import DeviceConfig.Lambda.Code
import DeviceConfig.Lambda.Fault

/-!
A lambda of the configuration is a plain body, or a header and a body in braces:

    (float x, const char *name) -> bool { return x > 0.5f; }

A text starts with a header if it starts with a parenthesis and the matching one is followed by an
arrow or a brace.
-/

namespace DeviceConfig

namespace Lambda

/-- The signature that a header writes down. -/
structure Header where
  parameters : List Cpp.Parameter
  result : Option CppType
  deriving Repr, DecidableEq

end Lambda

structure Lambda where
  header : Option Lambda.Header
  body : String
  deriving Repr, DecidableEq

namespace Lambda

open Text

def fault {α : Type} (cause : Cause) (offset length : Nat) : Except Fault α :=
  .error ⟨cause, ⟨offset, length⟩⟩

structure Piece where
  offset : Nat
  text : List Char
  deriving Repr, DecidableEq

def depthChange (c : Char) : Int :=
  if c == '<' || c == '(' then 1 else if c == '>' || c == ')' then -1 else 0

/-- The pieces between the commas that stand outside brackets. -/
def splitParameters (depth : Int) (offset : Nat) : List Char → List Piece
  | [] => [⟨offset, []⟩]
  | c :: rest =>
    if c == ',' && depth == 0 then ⟨offset, []⟩ :: splitParameters depth (offset + 1) rest
    else
      match splitParameters (depth + depthChange c) (offset + c.utf8Size) rest with
      | [] => [⟨offset, [c]⟩]
      | piece :: more => ⟨offset, c :: piece.text⟩ :: more

/-- A text cut before its longest end of name characters. -/
def cutName (text : List Char) : List Char × List Char :=
  ((text.reverse.dropWhile Cpp.isNameChar).reverse,
    (text.reverse.takeWhile Cpp.isNameChar).reverse)

/-- The parameter that a piece writes, after those before it. -/
def readParameter (earlier : List Cpp.Parameter) (piece : Piece) : Except Fault Cpp.Parameter :=
  let content := trim piece.text
  let start := piece.offset + indentation piece.text
  let (before, nameChars) := cutName content
  let typeChars := trimEnd before
  let name := String.ofList nameChars
  let typeText := String.ofList typeChars
  let nameStart := start + byteLength before
  if content.isEmpty then fault .emptyParameter piece.offset (max (byteLength piece.text) 1)
  else if nameChars.isEmpty then fault .noParameterName start (byteLength content)
  else if typeChars.isEmpty then fault (.noParameterType name) nameStart (byteLength nameChars)
  else if nameChars.head?.any Decimal.isDigit then
    fault (.badParameterName name) nameStart (byteLength nameChars)
  else
    match CppType.ofText? typeText with
    | none => fault (.unknownParameterType typeText) start (byteLength typeChars)
    | some type =>
      if earlier.any (·.name == name) then
        fault (.repeatedParameter name) nameStart (byteLength nameChars)
      else .ok ⟨name, type⟩

def readPieces (earlier : List Cpp.Parameter) : List Piece → Except Fault (List Cpp.Parameter)
  | [] => .ok earlier
  | piece :: rest =>
    match readParameter earlier piece with
    | .ok parameter => readPieces (earlier ++ [parameter]) rest
    | .error fault => .error fault

def readParameters (inside : Piece) : Except Fault (List Cpp.Parameter) :=
  if inside.text.all isBlank then .ok []
  else readPieces [] (splitParameters 0 inside.offset inside.text)

def requireBalance (piece : Piece) : Except Fault Unit :=
  match firstUnbalanced? piece.offset piece.text with
  | some bracket => fault (.unbalanced bracket.char) bracket.offset 1
  | none => .ok ()

/-- A text that is all body. -/
def ofBody (source : List Char) : Except Fault Lambda := do
  requireBalance ⟨0, source⟩
  return ⟨none, String.ofList (unindent source)⟩

/-- The lambda whose header is read up to the body; `rest` is the text after the opening brace, which
    stands at `brace`. -/
def ofHeader (parameters : Piece) (result : Option CppType) (brace : Nat) (rest : List Char) :
    Except Fault Lambda :=
  match cutAtLast? '\x7d' rest with
  | none => fault .openBody brace 1
  | some (body, trailing) => do
    if !trailing.all isBlank then
      fault .textAfterBody (brace + 2 + byteLength body + indentation trailing)
        (byteLength (trim trailing))
    let written ← readParameters parameters
    requireBalance ⟨brace + 1, body⟩
    return ⟨some ⟨written, result⟩, String.ofList (unindent body)⟩

/-- The result type after an arrow; `tail` is the text after the arrow, which stands at `arrow`. -/
def ofArrow (parameters : Piece) (arrow : Nat) (tail : List Char) : Except Fault Lambda :=
  let start := arrow + 2
  match cutAtChar? '\x7b' tail with
  | none => fault .noBody start (byteLength tail)
  | some (written, rest) =>
    let content := trim written
    let typeText := String.ofList content
    if content.isEmpty then fault .noResultType arrow 2
    else
      match CppType.ofText? typeText with
      | none =>
        fault (.unknownResultType typeText) (start + indentation written) (byteLength content)
      | some type => ofHeader parameters (some type) (start + byteLength written) rest

def read (text : String) : Except Fault Lambda :=
  let source := text.toList
  let start := indentation source
  match trimStart source with
  | '(' :: inside =>
    match closingParen? .code 0 inside with
    | none => fault .openHeader start 1
    | some (written, after) =>
      let parameters : Piece := ⟨start + 1, written⟩
      let tail := start + 2 + byteLength written + indentation after
      match trimStart after with
      | '-' :: '>' :: rest => ofArrow parameters tail rest
      | '\x7b' :: rest => ofHeader parameters none tail rest
      | _ => ofBody source
  | _ => ofBody source

end Lambda

end DeviceConfig
