import DeviceConfig.Text.Blank
import DeviceConfig.Text.Quoted
import DeviceConfig.Yaml.Document

/-!
Writing YAML documents in block style. A scalar is written plain where it can be read back as the
same text, else in quotes, and over several lines as a literal block.
-/

namespace DeviceConfig.Yaml

def isShown (c : Char) : Bool :=
  let n := c.toNat
  n == 10 || (0x20 ≤ n && n ≤ 0x7E) || (0xA0 ≤ n && n ≤ 0xFFFD && n ≠ 0xFEFF) || 0x10000 ≤ n

/-- What the characters of a text allow. -/
structure Shape where
  hasBreak : Bool
  /-- Without quotes its beginning or a mark inside it would be read as something else. -/
  hasMark : Bool
  /-- Its first or last character is a space or a line end. -/
  hasOuterBlank : Bool
  endsInSpace : Bool
  hasSpaceAfterBreak : Bool
  hasSpaceBeforeBreak : Bool
  hasHidden : Bool

/-- Whether two characters that satisfy the tests stand next to each other. -/
def hasPair (first second : Char → Bool) : List Char → Bool
  | a :: b :: rest => (first a && second b) || hasPair first second (b :: rest)
  | _ => false

/-- Marks at the start of a text that give it another meaning. -/
def startsMarked (text : List Char) : Bool :=
  match text with
  | [] => false
  | c :: rest =>
    "#,[]\x7b\x7d&*!|>'\"%@\x60".toList.contains c ||
      ((c == '?' || c == ':' || c == '-') && endsToken rest) ||
      ['-', '-', '-'].isPrefixOf text || ['.', '.', '.'].isPrefixOf text

/-- A colon before spacing or at the end, or a number sign after spacing. -/
def hasInnerMark : List Char → Bool
  | a :: b :: rest =>
    (b == ':' && endsToken rest) || (b == '#' && (isSpacing a || isBreak a || a == '\x00')) ||
      hasInnerMark (b :: rest)
  | _ => false

def isSpace (c : Char) : Bool := c == ' '

def Shape.of (text : List Char) : Shape :=
  let isOuter : Option Char → Bool
    | some c => isSpace c || isBreak c
    | none => false
  { hasBreak := text.any isBreak
    hasMark := startsMarked text || hasInnerMark text
    hasOuterBlank := isOuter text.head? || isOuter text.getLast?
    endsInSpace := text.getLast? == some ' '
    hasSpaceAfterBreak := hasPair isBreak isSpace text
    hasSpaceBeforeBreak := hasPair isSpace isBreak text
    hasHidden := text.any fun c => !isShown c }

namespace Shape

def allowsPlain (s : Shape) : Bool :=
  !(s.hasOuterBlank || s.hasSpaceAfterBreak || s.hasSpaceBeforeBreak || s.hasHidden || s.hasBreak ||
    s.hasMark)

def allowsSingle (s : Shape) : Bool :=
  !(s.hasSpaceAfterBreak || s.hasSpaceBeforeBreak || s.hasHidden)

def allowsBlock (s : Shape) : Bool := !(s.endsInSpace || s.hasSpaceBeforeBreak || s.hasHidden)

end Shape

/-- Whether the text would be read back as something that is no text, or looks like a number that is
    read as one. -/
def readsAsOther (text : String) : Bool :=
  isPaddedNumber text.toList ||
    match ofPlain text with
    | .ok (.string _) => false
    | _ => true

inductive Style where
  | plain
  | single
  | double
  | literal
  deriving Repr, DecidableEq

/-- How a text is written. Where a key is written on one line a literal block has no place. -/
def styleOf (text : String) (isSimpleKey : Bool) : Style :=
  let shape := Shape.of text.toList
  let quoted := if shape.allowsSingle then Style.single else .double
  if text.toList.contains '\n' then
    if shape.allowsBlock && !isSimpleKey then .literal else .double
  else if readsAsOther text || !shape.allowsPlain then quoted
  else .plain

/-- Breaks other than line feeds stay in the text and are followed by the indentation. -/
def singleBody (indent : Nat) (broken : Bool) : List Char → List Char
  | [] => if broken then List.replicate indent ' ' else []
  | c :: rest =>
    if isBreak c then c :: singleBody indent true rest
    else
      let start := if broken then List.replicate indent ' ' else []
      let shown := if c == '\'' then ['\'', '\''] else [c]
      start ++ shown ++ singleBody indent false rest

def hexUpper (digits n : Nat) : List Char :=
  let shown := (Nat.toDigits 16 n).map Char.toUpper
  List.replicate (digits - shown.length) '0' ++ shown

def doubleChar (c : Char) : List Char :=
  let n := c.toNat
  let named (e : Char) : List Char := ['\\', e]
  if n == 0 then named '0'
  else if n == 7 then named 'a'
  else if n == 8 then named 'b'
  else if n == 9 then named 't'
  else if n == 10 then named 'n'
  else if n == 11 then named 'v'
  else if n == 12 then named 'f'
  else if n == 13 then named 'r'
  else if n == 27 then named 'e'
  else if n == 34 then named '"'
  else if n == 92 then named '\\'
  else if n == 0x85 then named 'N'
  else if n == 0x2028 then named 'L'
  else if n == 0x2029 then named 'P'
  else if isShown c then [c]
  else if n ≤ 0xFF then '\\' :: 'x' :: hexUpper 2 n
  else if n ≤ 0xFFFF then '\\' :: 'u' :: hexUpper 4 n
  else '\\' :: 'U' :: hexUpper 8 n

/-- The lines of a literal block; each starts with the indentation unless it is empty. -/
def literalBody (indent : Nat) (broken : Bool) : List Char → List Char
  | [] => []
  | c :: rest =>
    if isBreak c then c :: literalBody indent true rest
    else
      let start := if broken then List.replicate indent ' ' else []
      start ++ c :: literalBody indent false rest

/-- Marks of a literal block: the indentation if the text starts with a space or a line end, and what
    its end has besides one line end. -/
def literalHeader (text : List Char) : List Char :=
  let indentMark := match text with
    | c :: _ => if isSpace c || isBreak c then ['2'] else []
    | [] => []
  let chompMark := match text.reverse with
    | [] => ['-']
    | c :: rest =>
      if !isBreak c then ['-']
      else
        match rest with
        | [] => ['+']
        | d :: _ => if isBreak d then ['+'] else []
  '|' :: (indentMark ++ chompMark)

/-- The written form of a text, whose further lines have this indentation. -/
def stringText (text : String) (indent : Nat) (isSimpleKey : Bool) : String :=
  let chars := text.toList
  match styleOf text isSimpleKey with
  | .plain => text
  | .single => String.ofList ('\'' :: singleBody indent false chars ++ ['\''])
  | .double => String.ofList ('"' :: chars.flatMap doubleChar ++ ['"'])
  | .literal => String.ofList (literalHeader chars ++ '\n' :: literalBody indent true chars)

def scalarText (node : Yaml) (indent : Nat) (isSimpleKey : Bool) : String :=
  match node with
  | .bool b => Value.boolText b
  | .int n => toString n
  | .float x => Decimal.Notation.yaml.text x
  | .string s => stringText s indent isSimpleKey
  | _ => "null"

/-- Whether a key is written on the line of its value: it has one line and at most 128 bytes. -/
def isSimpleKey : Yaml → Bool
  | .string s => !s.toList.any isBreak && s.utf8ByteSize ≤ 128
  | .tagged tag (.string s) =>
    !s.toList.any isBreak && tag.utf8ByteSize + s.utf8ByteSize ≤ 128
  | .sequence items => items.isEmpty
  | .mapping entries => entries.isEmpty
  | .tagged _ _ => false
  | _ => true

/-- What stands before a node on its line. -/
inductive Place where
  | start
  /-- A hyphen, a question mark, or a colon that starts its line. -/
  | mark
  | key
  /-- A tag; it tells whether the tag stands in a mapping. -/
  | tag (inMapping : Bool)
  deriving DecidableEq

def Place.gap : Place → String
  | .start => ""
  | _ => " "

def spaces (count : Nat) : String := String.ofList (List.replicate count ' ')

/-- Ends the line unless a literal block has ended it. -/
def endLine (text : String) : String :=
  match text.toList.getLast? with
  | some c => if isBreak c then text else text ++ "\n"
  | none => "\n"

/-- A text and, if there is more, the rest on a line of its own. -/
def joinLines (text : String) (indent : Nat) (rest : String) : String :=
  if rest.isEmpty then text else endLine text ++ spaces indent ++ rest

/-- The indentation of a collection in a node of indentation `outer`, which is none for the
    document. -/
def collectionIndent (outer : Option Nat) (isSequence : Bool) (place : Place) : Nat :=
  match outer with
  | none => 0
  | some n => if isSequence && (place = .key || place = .tag true) then n else n + 2

/-- What separates the first item of a collection from what stands before it. -/
def firstBreak (indent : Nat) (place : Place) : String :=
  match place with
  | .start => ""
  | .mark => " "
  | .key | .tag _ => "\n" ++ spaces indent

def scalarIndent (outer : Option Nat) : Nat :=
  match outer with
  | none => 2
  | some n => n + 2

def keyText (indent : Nat) : Yaml → String
  | .sequence _ => "[]"
  | .mapping _ => "\x7b\x7d"
  | .tagged tag node => tag ++ " " ++ scalarText node (indent + 2) true
  | scalar => scalarText scalar (indent + 2) true

mutual

/-- A node in a node of indentation `outer`. -/
def nodeText (outer : Option Nat) (place : Place) : Yaml → String
  | .sequence [] => place.gap ++ "[]"
  | .mapping [] => place.gap ++ "\x7b\x7d"
  | .sequence items =>
    let indent := collectionIndent outer true place
    firstBreak indent place ++ itemsText indent items
  | .mapping entries =>
    let indent := collectionIndent outer false place
    firstBreak indent place ++ entriesText indent entries
  | .tagged tag node => place.gap ++ tag ++ nodeText outer (.tag (place = .key)) node
  | scalar => place.gap ++ scalarText scalar (scalarIndent outer) false

def itemsText (indent : Nat) : List Yaml → String
  | [] => ""
  | item :: rest =>
    joinLines ("-" ++ nodeText (some indent) .mark item) indent (itemsText indent rest)

/-- A key that does not fit on the line of its value is marked by a question mark. -/
def entriesText (indent : Nat) : List (Yaml × Yaml) → String
  | [] => ""
  | (key, value) :: rest =>
    let entry :=
      if isSimpleKey key then
        keyText indent key ++ ":" ++ nodeText (some indent) .key value
      else
        joinLines ("?" ++ nodeText (some indent) .mark key) indent
          (":" ++ nodeText (some indent) .mark value)
    joinLines entry indent (entriesText indent rest)

end

/-- The document of a node. -/
def text (node : Yaml) : String := endLine (nodeText none .start node)

end DeviceConfig.Yaml
