import DeviceConfig.Text.Search
import DeviceConfig.Text.Blank

/-!
Reading the user's code no further than to tell code from literals and line comments, so that brackets
can be matched.
-/

namespace DeviceConfig.Lambda

/-- Where a scan of code stands. -/
inductive Mode where
  | code
  /-- In code, after a slash. -/
  | slash
  /-- In a literal that ends at this quote. -/
  | literal (quote : Char)
  /-- In a literal, after a backslash. -/
  | escape (quote : Char)
  | comment
  deriving Repr, DecidableEq

namespace Mode

/-- Whether a character that is read here is code. -/
def isCode : Mode → Bool
  | code => true
  | slash => true
  | _ => false

/-- Where the scan stands after a character of code that no slash stands before. -/
def afterCode (c : Char) : Mode :=
  if c == '"' || c == '\'' then literal c
  else if c == '/' then slash
  else code

def next : Mode → Char → Mode
  | code, c => afterCode c
  | slash, c => if c == '/' then comment else afterCode c
  | literal quote, c =>
    if c == '\\' then escape quote else if c == quote then code else literal quote
  | escape quote, _ => literal quote
  | comment, c => if c == '\n' then code else comment

end Mode

def isOpening (c : Char) : Bool := c == '(' || c == '[' || c == '\x7b'

def isClosing (c : Char) : Bool := c == ')' || c == ']' || c == '\x7d'

/-- The bracket that a closing bracket closes. -/
def openingOf (c : Char) : Char :=
  if c == ')' then '(' else if c == ']' then '[' else '\x7b'

/-- The text before and after the parenthesis that closes one already open; `depth` more were opened
    since. -/
def closingParen? (mode : Mode) (depth : Nat) : List Char → Option (List Char × List Char)
  | [] => none
  | c :: rest =>
    if mode.isCode && c == ')' && depth == 0 then some ([], rest)
    else
      let inner :=
        if mode.isCode && c == '(' then depth + 1
        else if mode.isCode && c == ')' then depth - 1
        else depth
      (closingParen? (mode.next c) inner rest).map fun (before, after) => (c :: before, after)

structure Bracket where
  char : Char
  offset : Nat
  deriving Repr, DecidableEq

/-- The first closing bracket that does not close the last open one, or the last bracket that stays
    open. The text starts at `offset`, inside the brackets of `outer`. -/
def unbalanced? (mode : Mode) (outer : List Bracket) (offset : Nat) : List Char → Option Bracket
  | [] => outer.head?
  | c :: rest =>
    let here : Bracket := ⟨c, offset⟩
    let after := offset + c.utf8Size
    if mode.isCode && isOpening c then unbalanced? (mode.next c) (here :: outer) after rest
    else if mode.isCode && isClosing c then
      match outer with
      | [] => some here
      | last :: enclosing =>
        if last.char == openingOf c then unbalanced? (mode.next c) enclosing after rest
        else some here
    else unbalanced? (mode.next c) outer after rest

/-- The first bracket that is out of balance in a text that starts at `offset`. -/
def firstUnbalanced? (offset : Nat) (text : List Char) : Option Bracket :=
  unbalanced? .code [] offset text

/-- The bytes of the blanks at the start of a line. -/
def indentation (line : List Char) : Nat := Text.byteLength (line.takeWhile Text.isBlank)

/-- The line without its first bytes, unless the cut would go through a character. -/
def dropBytes? : Nat → List Char → Option (List Char)
  | 0, line => some line
  | _ + 1, [] => none
  | bytes + 1, c :: rest =>
    if c.utf8Size ≤ bytes + 1 then dropBytes? (bytes + 1 - c.utf8Size) rest else none
termination_by _ line => line.length

/-- The lines from the first to the last that is not empty. -/
def contentLines (lines : List (List Char)) : List (List Char) :=
  ((lines.dropWhile List.isEmpty).reverse.dropWhile List.isEmpty).reverse

/-- The least indentation of a line that is not empty. -/
def commonIndentation (lines : List (List Char)) : Nat :=
  (((lines.filter fun line => !line.isEmpty).map indentation).min?).getD 0

/-- The text without blank lines around it, blanks at the ends of lines and the indentation that all
    lines share. -/
def unindent (text : List Char) : List Char :=
  let content := contentLines ((Text.lines text).map Text.trimEnd)
  let common := commonIndentation content
  let shifted := content.map fun line => (dropBytes? common line).getD (Text.trimStart line)
  ['\n'].intercalate shifted

end DeviceConfig.Lambda
