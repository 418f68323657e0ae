/-!
Reading numbers written in decimal.
-/

namespace DeviceConfig.Decimal

def isDigit (c : Char) : Bool := '0' ≤ c && c ≤ '9'

/-- The value of a digit in a base up to sixteen. -/
def digitValue? (base : Nat) (c : Char) : Option Nat :=
  let value :=
    if isDigit c then some (c.toNat - '0'.toNat)
    else if 'a' ≤ c && c ≤ 'f' then some (c.toNat - 'a'.toNat + 10)
    else if 'A' ≤ c && c ≤ 'F' then some (c.toNat - 'A'.toNat + 10)
    else none
  value.filter (· < base)

/-- The value of digits that follow digits of value `sum`. -/
def digitsValue? (base : Nat) (sum : Nat) : List Char → Option Nat
  | [] => some sum
  | c :: rest => (digitValue? base c).bind fun d => digitsValue? base (sum * base + d) rest

/-- At least one digit and nothing else. -/
def natural? (base : Nat) : List Char → Option Nat
  | [] => none
  | digits => digitsValue? base 0 digits

/-- A whole number with an optional sign, of any size. -/
def integer? (base : Nat) : List Char → Option Int
  | '-' :: digits => (natural? base digits).map fun n => -(n : Int)
  | '+' :: digits => (natural? base digits).map fun n => (n : Int)
  | digits => (natural? base digits).map fun n => (n : Int)

/-- A signed word of 64 bits, when the number fits in it. -/
def word? (n : Int) : Option Int64 :=
  if Int64.minValue.toInt ≤ n && n ≤ Int64.maxValue.toInt then some (Int64.ofInt n) else none

def int64? (text : List Char) : Option Int64 := (integer? 10 text).bind word?

/-- An unsigned whole number below `2 ^ 64`; a plus sign is allowed. -/
def uint64? (text : List Char) : Option Nat :=
  let digits := match text with
    | '+' :: rest => rest
    | rest => rest
  (natural? 10 digits).filter (· < Nat.pow 2 64)

/-- `coefficient * 10 ^ exponent` rounded to the nearest number of 64 bits. Exponents that take every
    coefficient of this length out of range are settled at once. -/
def nearestFloat (coefficient : Nat) (length : Nat) (exponent : Int) : Float :=
  if coefficient == 0 then 0
  else if 400 < exponent then 1.0 / 0.0
  else if exponent + length < -400 then 0
  else if exponent < 0 then Float.ofScientific coefficient true exponent.natAbs
  else Float.ofScientific coefficient false exponent.natAbs

/-- The part from an exponent mark on. -/
def exponent? : List Char → Option Int
  | [] => some 0
  | mark :: rest => if mark == 'e' || mark == 'E' then integer? 10 rest else none

/-- Digits, a point among or around them, and an exponent; there must be a digit before the
    exponent. -/
def unsignedFloat? (text : List Char) : Option Float :=
  let whole := text.takeWhile isDigit
  let afterWhole := text.dropWhile isDigit
  let (fraction, tail) := match afterWhole with
    | '.' :: rest => (rest.takeWhile isDigit, rest.dropWhile isDigit)
    | rest => ([], rest)
  let digits := whole ++ fraction
  match natural? 10 digits, exponent? tail with
  | some coefficient, some exponent =>
    some (nearestFloat coefficient digits.length (exponent - fraction.length))
  | _, _ => none

/-- A number, an infinity or NaN, with an optional sign. -/
def float? (text : List Char) : Option Float :=
  let (negative, rest) := match text with
    | '-' :: rest => (true, rest)
    | '+' :: rest => (false, rest)
    | rest => (false, rest)
  let name := String.ofList (rest.map Char.toLower)
  let size :=
    if name == "inf" || name == "infinity" then some (1.0 / 0.0)
    else if name == "nan" then some (0.0 / 0.0)
    else unsignedFloat? rest
  size.map fun x => if negative then -x else x

end DeviceConfig.Decimal
