import DeviceConfig.Decimal.Reader

/-!
Names of the generated program.
-/

namespace DeviceConfig.Cpp

/-- ASCII letters, digits and the underscore. -/
def isNameChar (c : Char) : Bool := c.isAlphanum || c == '_'

def isNameStart (c : Char) : Bool := c.isAlpha || c == '_'

/-- A word of name characters that starts with no digit. -/
def isName (text : String) : Bool :=
  match text.toList with
  | [] => false
  | c :: rest => isNameStart c && rest.all isNameChar

def keywords : List String :=
  ["alignas", "alignof", "and", "and_eq", "asm", "auto", "bitand", "bitor", "bool", "break",
    "case", "catch", "char", "char16_t", "char32_t", "class", "compl", "const", "const_cast",
    "constexpr", "continue", "decltype", "default", "delete", "do", "double", "dynamic_cast",
    "else", "enum", "explicit", "export", "extern", "false", "float", "for", "friend", "goto",
    "if", "inline", "int", "long", "mutable", "namespace", "new", "noexcept", "not", "not_eq",
    "nullptr", "operator", "or", "or_eq", "private", "protected", "public", "register",
    "reinterpret_cast", "return", "short", "signed", "sizeof", "static", "static_assert",
    "static_cast", "struct", "switch", "template", "this", "thread_local", "throw", "true",
    "try", "typedef", "typeid", "typename", "union", "unsigned", "using", "virtual", "void",
    "volatile", "wchar_t", "while", "xor", "xor_eq"]

def programNames : List String :=
  ["App", "setup", "loop", "esphomelib", "std", "x", "NAN", "INFINITY"]

def isReserved (text : String) : Bool := keywords.contains text || programNames.contains text

/-- The nearest name: other characters become underscores, an empty text becomes `id`, and a digit
    at the start gets an underscore before it. -/
def toName (text : String) : String :=
  let chars := text.toList.map fun c => if isNameChar c then c else '_'
  match chars with
  | [] => "id"
  | c :: rest =>
    String.ofList (if Decimal.isDigit c then '_' :: c :: rest else c :: rest)

def numbered (preferred : String) (n : Nat) : String := s!"{preferred}_{n}"

/-- The first numbered name that is free, from number `n` on; `bound` names are tried. -/
def firstFree (preferred : String) (taken : List String) : (bound n : Nat) → String
  | 0, n => numbered preferred n
  | bound + 1, n =>
    if taken.contains (numbered preferred n) then firstFree preferred taken bound (n + 1)
    else numbered preferred n

/-- `preferred` if it is free, else the first of its numbered names from 2 on that is. At most as many
    of those are taken as there are taken names. -/
def fresh (preferred : String) (taken : List String) : String :=
  if taken.contains preferred then firstFree preferred taken taken.length 2 else preferred

end DeviceConfig.Cpp
