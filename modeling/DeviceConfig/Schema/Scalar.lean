import DeviceConfig.Cpp.Name
import DeviceConfig.Decimal.Reader
import DeviceConfig.Schema.Basic
import DeviceConfig.Text.Blank
import DeviceConfig.Text.Search
import DeviceConfig.Value.Display

/-!
Reading scalars: what of a written value is a boolean, a number, a name, a period and so on.
-/

namespace DeviceConfig.Scalar

abbrev Read := Except Complaint Value

def boolean : Value → Read
  | .bool b => .ok (.bool b)
  | .string s =>
    let word := Text.lowercase s
    if ["true", "yes", "on", "enable"].contains word then .ok (.bool true)
    else if ["false", "no", "off", "disable"].contains word then .ok (.bool false)
    else .error (.unreadableBoolean s)
  | other => .error (.notBoolean other.kindName)

def isWhole (x : Float) : Bool := x.isFinite && x == x.floor

def wholeNumber : Value → Except Complaint Int64
  | .int n => .ok n
  | .float x => if isWhole x then .ok x.toInt64 else .error (.notInteger "float")
  | .string s =>
    match Decimal.int64? (Text.trim s.toList) with
    | some n => .ok n
    | none => .error (.unreadableInteger s)
  | other => .error (.notInteger other.kindName)

def int (least most : Option Int64) (value : Value) : Read := do
  let n ← wholeNumber value
  if let some least := least then
    if n < least then throw (.below (toString least.toInt))
  if let some most := most then
    if most < n then throw (.above (toString most.toInt))
  return .int n

def number : Value → Except Complaint Float
  | .int n => .ok n.toFloat
  | .float x => .ok x
  | .string s =>
    match Decimal.float? (Text.trim s.toList) with
    | some x => .ok x
    | none => .error (.unreadableFloat s)
  | other => .error (.notFloat other.kindName)

def float (least most : Option Float) (value : Value) : Read := do
  let x ← number value
  if let some least := least then
    if x < least then throw (.below (Decimal.Notation.plain.text least))
  if let some most := most then
    if most < x then throw (.above (Decimal.Notation.plain.text most))
  return .float x

/-- The text of any scalar. -/
def text : Value → Except Complaint String
  | .list _ | .map _ => .error .collectionAsText
  | .null => .error .missingText
  | .lambda _ => .error .lambdaAsText
  | other =>
    match other.scalarText? with
    | some s => .ok s
    | none => .error (.notText other.kindName)

def string (value : Value) : Read := (text value).map .string

def writtenString : Value → Read
  | .string s => .ok (.string s)
  | other => .error (.notWrittenAsText other.kindName)

def isNameChar (c : Char) : Bool := c.isLower || c.isDigit || c == '_'

def name (value : Value) : Read := do
  let s ← text value
  if s.isEmpty then throw .emptyName
  match s.toList.find? fun c => !isNameChar c with
  | some c => throw (.badNameCharacter c)
  | none => return .string s

def icon (value : Value) : Read := do
  let s ← text value
  if "mdi:".toList.isPrefixOf s.toList then return .string s else throw .notIcon

def oneOf (choices : List String) (value : Value) : Read :=
  match value.scalarText? with
  | none => .error (.notChoice choices)
  | some s =>
    let word := String.ofList (Text.trim s.toList)
    match choices.find? (Text.equalIgnoringAsciiCase · word) with
    | some choice => .ok (.string choice)
    | none => .error (.unknownChoice s choices)

/-- A supported chip under any of its names. -/
def target (value : Value) : Read := do
  let word := Text.uppercase (← text value)
  if ["ESP8266", "ESPRESSIF8266"].contains word then return .string "ESP8266"
  else if ["ESP32", "ESPRESSIF32"].contains word then return .string "ESP32"
  else throw (.unknownTarget word)

def micro : Char := Char.ofNat 0xB5

def microSecondsName : String := String.ofList [micro, 's']

/-- The microseconds in a unit of time. -/
def unitMicroseconds? (unit : String) : Option Float :=
  if unit == "us" || unit == microSecondsName then some 1.0
  else if unit == "ms" then some 1000.0
  else if unit == "s" || unit == "sec" then some 1000000.0
  else if unit == "min" then some 60000000.0
  else if unit == "h" then some 3600000000.0
  else if unit == "d" then some 86400000000.0
  else none

/-- Hours and minutes, or hours, minutes and seconds. -/
def clockSeconds? : List Nat → Option Nat
  | [h, m] => some (h * 3600 + m * 60)
  | [h, m, s] => some (h * 3600 + m * 60 + s)
  | _ => none

/-- A number with a unit of time, or numbers between colons. -/
def period? (text : String) : Option Duration :=
  let trimmed := Text.trim text.toList
  if trimmed.contains ':' then do
    let numbers ← (Text.splitOn (· == ':') trimmed).mapM Decimal.uint64?
    let seconds ← clockSeconds? numbers
    return Duration.ofSeconds seconds
  else do
    let isNumeral (c : Char) : Bool := Decimal.isDigit c || c == '.'
    let n ← Decimal.float? (trimmed.takeWhile isNumeral)
    let factor ← unitMicroseconds? (String.ofList (Text.trim (trimmed.dropWhile isNumeral)))
    let micros := n * factor
    if !micros.isFinite || micros < 0 then none
    else return Duration.ofMicroseconds micros.round.toUInt64.toNat

def duration : Value → Read
  | .duration d => .ok (.duration d)
  | .int n => .error (.noTimeUnit (Value.int n).text)
  | .float x => .error (.noTimeUnit (Value.float x).text)
  | .string s =>
    match period? s with
    | some d => .ok (.duration d)
    | none => .error (.unreadablePeriod s)
  | other => .error (.notPeriod other.kindName)

def metricFactor? (sign : String) : Option Float :=
  if sign == "" then some 1.0
  else if sign == "p" then some 1e-12
  else if sign == "n" then some 1e-9
  else if sign == "u" || sign == String.ofList [micro] then some 1e-6
  else if sign == "m" then some 1e-3
  else if sign == "k" then some 1e3
  else if sign == "M" then some 1e6
  else if sign == "G" then some 1e9
  else none

/-- The exponent at the start of the text, if it has digits, and what follows it. -/
def splitExponent (text : List Char) : List Char × List Char :=
  match text with
  | mark :: rest =>
    if mark == 'e' || mark == 'E' then
      let (sign, digits) := match rest with
        | '+' :: digits => (['+'], digits)
        | '-' :: digits => (['-'], digits)
        | digits => ([], digits)
      if (digits.takeWhile Decimal.isDigit).isEmpty then ([], text)
      else (mark :: (sign ++ digits.takeWhile Decimal.isDigit), digits.dropWhile Decimal.isDigit)
    else ([], text)
  | [] => ([], [])

/-- The number at the start of the text and what follows it. -/
def splitNumber? (text : List Char) : Option (List Char × List Char) :=
  let (sign, rest) := match text with
    | '+' :: rest => (['+'], rest)
    | '-' :: rest => (['-'], rest)
    | rest => ([], rest)
  let whole := rest.takeWhile Decimal.isDigit
  let (fraction, tail) := match rest.dropWhile Decimal.isDigit with
    | '.' :: more => ('.' :: more.takeWhile Decimal.isDigit, more.dropWhile Decimal.isDigit)
    | more => ([], more)
  if whole.isEmpty && fraction.length ≤ 1 then none
  else
    let (exponent, tail) := splitExponent tail
    some (sign ++ whole ++ fraction ++ exponent, tail)

def isUnitChar (c : Char) : Bool := c.isAlpha || c == micro || c == '%'

/-- A number and the unit after it, which may be empty. -/
def quantityParts? (text : String) : Option (Float × List Char) := do
  let (digits, tail) ← splitNumber? (Text.trim text.toList)
  let unit := Text.trimStart tail
  if unit.all isUnitChar then return (← Decimal.float? digits, unit) else none

/-- What stands before the unit at the end of a text. -/
def beforeUnit? (unit text : List Char) : Option (List Char) :=
  if unit.isSuffixOf text then some (text.take (text.length - unit.length)) else none

def quantityValue (unit : String) : Value → Except Complaint Float
  | .quantity x u =>
    if u == unit then .ok x else .error (.notQuantity unit "quantity")
  | .int n => .ok n.toFloat
  | .float x => .ok x
  | .string s =>
    match quantityParts? s with
    | none => .error (.unreadableQuantity unit s)
    | some (x, written) =>
      match if written.isEmpty then some [] else beforeUnit? unit.toList written with
      | none => .error (.wrongUnit s unit)
      | some sign =>
        match metricFactor? (String.ofList sign) with
        | some factor => .ok (x * factor)
        | none => .error (.unknownUnitPrefix (String.ofList sign) s)
  | other => .error (.notQuantity unit other.kindName)

def quantity (unit : String) (value : Value) : Read :=
  (quantityValue unit value).map (.quantity · unit)

def lambda : Value → Read
  | .lambda code | .string code => .ok (.lambda code)
  | other => .error (.notLambda other.kindName)

/-- The identifier that a value names. An identifier that was made up stays so where it is declared,
    and a made-up one may have any name. -/
def identifier (type : CppType) (role : IdRole) (value : Value) : Read := do
  let (name, existing) ←
    match value with
    | .id i => pure (i.name, some i.role)
    | .string s => pure (s, none)
    | other => throw (Complaint.idNotText other.kindName)
  if !Cpp.isName name then throw (.badId name)
  let role := if existing = some .generated ∧ role = .declared then .generated else role
  if role ≠ .generated && Cpp.isReserved name then throw (.reservedId name)
  return .id ⟨name, type, role⟩

def coerce : Coercion → Value → Read
  | .icon => icon
  | .target => target
  | .simpleId => fun
    | .map entries => .ok (.map entries)
    | other => .ok (.map [("id", other)])

end DeviceConfig.Scalar
