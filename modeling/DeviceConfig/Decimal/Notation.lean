import DeviceConfig.Decimal.Shortest

/-!
Writing floating-point numbers: one way to lay out shortest digits, with the decisions that differ
between formats in one record.
-/

namespace DeviceConfig.Decimal

/-- How a format writes a number. -/
structure Notation where
  /-- Powers of ten, first and last, that are written without an exponent; none means all. -/
  positional : Option (Int × Int)
  /-- Whether a whole number in positional notation ends in a point and a zero. -/
  keepsPoint : Bool
  /-- Whether an exponent that is not negative has a plus sign. -/
  plusSign : Bool
  tie : Tie
  nan : String
  infinity : String

/-- Exponents below -4 and from 16 on. -/
def Notation.debug : Notation := ⟨some (-4, 15), true, false, .up, "NaN", "inf"⟩

/-- Never an exponent, and no point after a whole number. -/
def Notation.plain : Notation := ⟨none, false, false, .up, "NaN", "inf"⟩

/-- Never an exponent, and a point in every number. -/
def Notation.pointed : Notation := { Notation.plain with keepsPoint := true }

/-- Exponents below -5 and from 16 on, with a sign. JSON has no text for infinities and NaN. -/
def Notation.json : Notation := ⟨some (-5, 15), true, true, .even, "null", "null"⟩

/-- Exponents below -5 and from 16 on. -/
def Notation.yaml : Notation := ⟨some (-5, 15), true, false, .even, ".nan", ".inf"⟩

def zeros (n : Nat) : List Char := List.replicate n '0'

/-- Digits with the point at its place. -/
def positionalText (keepsPoint : Bool) (digits : List Char) (exponent : Int) : List Char :=
  if 0 ≤ exponent then
    digits ++ zeros exponent.toNat ++ (if keepsPoint then ['.', '0'] else [])
  else
    let places := exponent.natAbs
    if digits.length ≤ places then '0' :: '.' :: (zeros (places - digits.length) ++ digits)
    else digits.take (digits.length - places) ++ '.' :: digits.drop (digits.length - places)

/-- One digit, the others after a point, and the power of ten. -/
def scientificText (plusSign : Bool) (digits : List Char) (power : Int) : List Char :=
  let head := match digits with
    | [] => []
    | [d] => [d]
    | d :: rest => d :: '.' :: rest
  let sign := if power < 0 then ['-'] else if plusSign then ['+'] else []
  head ++ 'e' :: (sign ++ Nat.toDigits 10 power.natAbs)

def Notation.digitsText (format : Notation) (d : Digits) : List Char :=
  let digits := Nat.toDigits 10 d.coefficient
  let power := d.exponent + digits.length - 1
  match format.positional with
  | none => positionalText format.keepsPoint digits d.exponent
  | some (first, last) =>
    if first ≤ power && power ≤ last then positionalText format.keepsPoint digits d.exponent
    else scientificText format.plusSign digits power

def signText (negative : Bool) : String := if negative then "-" else ""

def Notation.text (format : Notation) (x : Float) : String :=
  match Reading.ofBits x.toBits with
  | .nan => format.nan
  | .infinity negative => signText negative ++ format.infinity
  | .zero negative => signText negative ++ if format.keepsPoint then "0.0" else "0"
  | .finite negative size =>
    signText negative ++ String.ofList (format.digitsText (size.shortest format.tie))

end DeviceConfig.Decimal
