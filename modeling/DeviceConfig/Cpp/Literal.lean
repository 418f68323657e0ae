import DeviceConfig.Decimal.Notation

/-!
Literals of the generated program.
-/

namespace DeviceConfig.Cpp

def octal (n : Nat) : List Char :=
  [Nat.digitChar (n / 64 % 8), Nat.digitChar (n / 8 % 8), Nat.digitChar (n % 8)]

def isPlainByte (byte : UInt8) : Bool :=
  32 ≤ byte && byte < 127 && byte ≠ 92 && byte ≠ 34

/-- Bytes that are no printable ASCII character, and quotes and backslashes, are written as an escape
    of three octal digits. -/
def escapeByte (byte : UInt8) : List Char :=
  if isPlainByte byte then [Char.ofNat byte.toNat] else '\\' :: octal byte.toNat

/-- A string literal whose bytes are the UTF-8 bytes of the text. -/
def stringLiteral (text : String) : String :=
  String.ofList ('"' :: text.toByteArray.toList.flatMap escapeByte ++ ['"'])

inductive Literal where
  | null
  | bool (value : Bool)
  | int (value : Int64)
  /-- Written in base sixteen. -/
  | hex (value : UInt64)
  | float (value : Float)
  | string (text : String)

/-- At least two digits in base sixteen. -/
def hexLiteral (n : Nat) : String :=
  let digits := (Nat.toDigits 16 n).map Char.toUpper
  String.ofList ('0' :: 'x' :: (if digits.length < 2 then '0' :: digits else digits))

def floatLiteral (x : Float) : String :=
  match Decimal.Reading.ofBits x.toBits with
  | .nan => "NAN"
  | .infinity negative => if negative then "-INFINITY" else "INFINITY"
  | _ => Decimal.Notation.debug.text x ++ "f"

def Literal.text : Literal → String
  | null => "nullptr"
  | bool b => if b then "true" else "false"
  | int n => toString n.toInt
  | hex n => hexLiteral n.toNat
  | float x => floatLiteral x
  | string s => stringLiteral s

end DeviceConfig.Cpp
