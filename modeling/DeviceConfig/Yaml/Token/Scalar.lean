import DeviceConfig.Decimal.Reader
import DeviceConfig.Yaml.Token

/-!
The three kinds of scalars as they stand in a stream: quoted, plain and block. Each reader follows the
characters one by one and gives the scalar's text and the characters after it.
-/

namespace DeviceConfig.Yaml

/-- Spacing and line ends between two parts of a scalar, not yet known to belong to it. -/
structure Gap where
  /-- Spacing before any line end, last first. -/
  spacing : List Char
  broken : Bool
  /-- The first line end, unless it was escaped. -/
  firstBreak : Option Char
  /-- The other line ends, last first. -/
  moreBreaks : List Char
  deriving Repr, DecidableEq

namespace Gap

def none : Gap := ⟨[], false, .none, []⟩

def isNone (gap : Gap) : Bool := gap.spacing.isEmpty && !gap.broken

def addSpacing (gap : Gap) (c : Char) : Gap :=
  if gap.broken then gap else { gap with spacing := c :: gap.spacing }

def addBreak (gap : Gap) (c : Char) : Gap :=
  if gap.broken then { gap with moreBreaks := breakChar c :: gap.moreBreaks }
  else ⟨[], true, some (breakChar c), []⟩

/-- A line end that an escape takes away. -/
def escaped : Gap := ⟨[], true, .none, []⟩

/-- What the gap stands for, last character first. One line end folds to a space, and of several the
    first is dropped. -/
def folded (gap : Gap) : List Char :=
  if !gap.broken then gap.spacing
  else
    match gap.firstBreak with
    | some '\n' => if gap.moreBreaks.isEmpty then [' '] else gap.moreBreaks
    | some c => gap.moreBreaks ++ [c]
    | .none => gap.moreBreaks

end Gap

def simpleEscape? (c : Char) : Option Char :=
  match c with
  | '0' => some '\x00'
  | 'a' => some '\x07'
  | 'b' => some '\x08'
  | 't' => some '\t'
  | '\t' => some '\t'
  | 'n' => some '\n'
  | 'v' => some '\x0b'
  | 'f' => some '\x0c'
  | 'r' => some '\r'
  | 'e' => some '\x1b'
  | ' ' => some ' '
  | '"' => some '"'
  | '/' => some '/'
  | '\\' => some '\\'
  | 'N' => some (Char.ofNat 0x85)
  | '_' => some (Char.ofNat 0xA0)
  | 'L' => some (Char.ofNat 0x2028)
  | 'P' => some (Char.ofNat 0x2029)
  | _ => none

/-- How many hexadecimal digits follow the escape. -/
def numericEscape? (c : Char) : Option Nat :=
  if c == 'x' then some 2 else if c == 'u' then some 4 else if c == 'U' then some 8 else none

/-- The character that the first `count` digits number. -/
def numberedChar? (count : Nat) (digits : List Char) : Option Char :=
  if digits.length < count then none
  else
    match Decimal.natural? 16 (digits.take count) with
    | some n => if n.isValidChar then some (Char.ofNat n) else none
    | none => none

/-- A scalar in single quotes, from after the first quote on. -/
def singleQuoted (out : List Char) (gap : Gap) (column : Nat) :
    List Char → Except Fault (List Char × List Char)
  | [] => .error .unexpectedEnd
  | '\r' :: '\n' :: rest => singleQuoted out (gap.addBreak '\n') 0 rest
  | c :: rest =>
    if isSpacing c then singleQuoted out (gap.addSpacing c) (column + 1) rest
    else if isBreak c then singleQuoted out (gap.addBreak c) 0 rest
    else if column == 0 && startsDocumentMark (c :: rest) then .error .documentMarkInScalar
    else if c == '\'' then
      match rest with
      | '\'' :: rest => singleQuoted ('\'' :: (gap.folded ++ out)) .none (column + 2) rest
      | rest => .ok ((gap.folded ++ out).reverse, rest)
    else singleQuoted (c :: (gap.folded ++ out)) .none (column + 1) rest

/-- A scalar in double quotes, from after the first quote on. -/
def doubleQuoted (out : List Char) (gap : Gap) (column : Nat) (text : List Char) :
    Except Fault (List Char × List Char) :=
  match text with
  | [] => .error .unexpectedEnd
  | '\r' :: '\n' :: rest => doubleQuoted out (gap.addBreak '\n') 0 rest
  | c :: rest =>
    if isSpacing c then doubleQuoted out (gap.addSpacing c) (column + 1) rest
    else if isBreak c then doubleQuoted out (gap.addBreak c) 0 rest
    else if column == 0 && startsDocumentMark (c :: rest) then .error .documentMarkInScalar
    else if c == '"' then .ok ((gap.folded ++ out).reverse, rest)
    else if c == '\\' then
      match rest with
      | [] => .error .badEscape
      | '\r' :: '\n' :: rest => doubleQuoted (gap.folded ++ out) .escaped 0 rest
      | e :: rest =>
        if isBreak e then doubleQuoted (gap.folded ++ out) .escaped 0 rest
        else
          match simpleEscape? e, numericEscape? e with
          | some meant, _ => doubleQuoted (meant :: (gap.folded ++ out)) .none (column + 2) rest
          | none, some count =>
            match numberedChar? count rest with
            | some meant =>
              doubleQuoted (meant :: (gap.folded ++ out)) .none (column + 2 + count)
                (rest.drop count)
            | none => .error .badEscape
          | none, none => .error .badEscape
    else doubleQuoted (c :: (gap.folded ++ out)) .none (column + 1) rest
termination_by text.length

def isFlowMark (c : Char) : Bool :=
  c == ',' || c == '[' || c == ']' || c == '\x7b' || c == '\x7d'

/-- A scalar without quotes. Its further lines are indented to `indent` at least, unless it stands in
    brackets. Also tells whether a line ended after it. -/
def plainScalar (inFlow : Bool) (indent : Nat) (out : List Char) (gap : Gap) (column : Nat) :
    List Char → Except Fault (List Char × Bool × List Char)
  | [] => .ok (out.reverse, gap.broken, [])
  | '\r' :: '\n' :: rest => plainScalar inFlow indent out (gap.addBreak '\n') 0 rest
  | c :: rest =>
    if isSpacing c then
      if gap.broken && column < indent && c == '\t' then .error .tabAsIndentation
      else plainScalar inFlow indent out (gap.addSpacing c) (column + 1) rest
    else if isBreak c then plainScalar inFlow indent out (gap.addBreak c) 0 rest
    else if !gap.isNone && ((!inFlow && column < indent) ||
        (column == 0 && startsDocumentMark (c :: rest)) || c == '#') then
      .ok (out.reverse, gap.broken, c :: rest)
    else if inFlow && c == ':' &&
        (match rest with
          | next :: _ => isFlowMark next || next == '?'
          | [] => false) then .error .ambiguousColon
    else if (c == ':' && endsToken rest) || (inFlow && isFlowMark c) then
      .ok (out.reverse, gap.broken, c :: rest)
    else plainScalar inFlow indent (c :: (gap.folded ++ out)) .none (column + 1) rest

/-- What becomes of the line ends after a block scalar's last line. -/
inductive Chomping where
  | strip
  | clip
  | keep
  deriving Repr, DecidableEq

structure BlockState where
  isLiteral : Bool
  /-- The indentation of the scalar's lines; none until a line has shown it. -/
  indent : Option Nat
  /-- The least indentation that counts when it is not given. -/
  least : Nat
  /-- The widest indentation of the blank lines at the start. -/
  widest : Nat
  out : List Char
  lineEnd : Option Char
  /-- Ends of blank lines after it, last first. -/
  blankEnds : List Char
  /-- Whether the last line started with spacing. -/
  startedBlank : Bool

namespace BlockState

/-- Takes the line ends before a line that starts with `c`. In a folded scalar one line end between
    two lines without extra indentation becomes a space, and of several the first is dropped. -/
def startLine (s : BlockState) (c : Char) : BlockState :=
  let blank := isSpacing c
  let between :=
    match s.lineEnd with
    | some e =>
      if !s.isLiteral && e == '\n' && !s.startedBlank && !blank then
        if s.blankEnds.isEmpty then [' '] else s.blankEnds
      else s.blankEnds ++ [e]
    | none => s.blankEnds
  { s with out := between ++ s.out, lineEnd := none, blankEnds := [], startedBlank := blank }

def finish (s : BlockState) (chomping : Chomping) : List Char :=
  let lineEnd := match s.lineEnd with
    | some e => [e]
    | none => []
  match chomping with
  | .strip => s.out.reverse
  | .clip => (lineEnd ++ s.out).reverse
  | .keep => (s.blankEnds ++ lineEnd ++ s.out).reverse

/-- The indentation that counts from the first line with text on. -/
def settledIndent (s : BlockState) (column : Nat) : Nat :=
  s.indent.getD (max (max s.widest column) s.least)

end BlockState

/-- The lines of a block scalar. `inLine` tells whether the characters belong to a line's text or
    to its indentation. -/
def blockLines (chomping : Chomping) (s : BlockState) (inLine : Bool) (column : Nat) :
    List Char → Except Fault (List Char × List Char)
  | [] => .ok (s.finish chomping, [])
  | '\r' :: '\n' :: rest =>
    if inLine then blockLines chomping { s with lineEnd := some '\n' } false 0 rest
    else
      blockLines chomping
        { s with widest := max s.widest column, blankEnds := '\n' :: s.blankEnds } false 0 rest
  | c :: rest =>
    if inLine then
      if isBreak c then blockLines chomping { s with lineEnd := some (breakChar c) } false 0 rest
      else blockLines chomping { s with out := c :: s.out } true (column + 1) rest
    else
      let before := match s.indent with
        | some indent => decide (column < indent)
        | none => true
      if c == ' ' && before then blockLines chomping s false (column + 1) rest
      else if c == '\t' && before then .error .tabAsIndentation
      else if isBreak c then
        blockLines chomping
          { s with widest := max s.widest column, blankEnds := breakChar c :: s.blankEnds } false 0
          rest
      else
        let indent := s.settledIndent column
        if column == indent then
          let started := { s with indent := some indent }.startLine c
          blockLines chomping { started with out := c :: started.out } true (column + 1) rest
        else .ok (s.finish chomping, c :: rest)

/-- The marks after the sign of a block scalar: chomping and indentation in either order. -/
def blockHeader (text : List Char) : Except Fault (Chomping × Option Nat × List Char) :=
  let chompingOf (c : Char) : Option Chomping :=
    if c == '+' then some .keep else if c == '-' then some .strip else none
  let digitOf (c : Char) : Option Nat := Decimal.digitValue? 10 c
  match text with
  | [] => .ok (.clip, none, [])
  | a :: rest =>
    match chompingOf a, digitOf a with
    | some chomping, _ =>
      match rest with
      | [] => .ok (chomping, none, [])
      | b :: rest' =>
        match digitOf b with
        | some 0 => .error .badBlockHeader
        | some n => .ok (chomping, some n, rest')
        | none => .ok (chomping, none, rest)
    | none, some 0 => .error .badBlockHeader
    | none, some n =>
      match rest with
      | [] => .ok (.clip, some n, [])
      | b :: rest' =>
        match chompingOf b with
        | some chomping => .ok (chomping, some n, rest')
        | none => .ok (.clip, some n, rest)
    | none, none => .ok (.clip, none, a :: rest)

/-- The text from the end of this line on, when the line holds no more than spacing and a comment. -/
def restOfLine (text : List Char) : Except Fault (List Char) :=
  match text.dropWhile isSpacing with
  | '#' :: rest => .ok (rest.dropWhile fun c => !isBreak c)
  | [] => .ok []
  | c :: rest => if isBreak c then .ok (c :: rest) else .error .badBlockHeader

/-- A block scalar, from after its sign on; `indent` is the indentation of what it stands in. -/
def blockScalar (isLiteral : Bool) (indent : Int) (text : List Char) :
    Except Fault (List Char × List Char) := do
  let (chomping, increment, afterHeader) ← blockHeader text
  let atBreak ← restOfLine afterHeader
  let base := indent.toNat
  let start : BlockState :=
    { isLiteral, indent := increment.map fun n => if 0 ≤ indent then base + n else n,
      least := max (indent + 1).toNat 1, widest := 0, out := [], lineEnd := none, blankEnds := [],
      startedBlank := false }
  blockLines chomping start false 0 (afterBreak atBreak)

end DeviceConfig.Yaml
