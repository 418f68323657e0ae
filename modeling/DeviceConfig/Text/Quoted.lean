import DeviceConfig.Text.PrintableTable
import DeviceConfig.Text.CaseTable

/-!
A text between double quotes, with the characters that would not show on a terminal written by
escape or by number.
-/

namespace DeviceConfig.Text

/-- Letters that show as nothing: the fillers of Hangul. -/
def isFiller (c : Char) : Bool :=
  c.toNat == 0x115F || c.toNat == 0x1160 || c.toNat == 0x3164 || c.toNat == 0xFFA0

/-- Marks that would join the quote or the character before them. The halfwidth sound marks have a
    place of their own. -/
def joinsBefore (c : Char) : Bool :=
  inRanges graphemeExtendRanges c.toNat && !(c.toNat == 0xFF9E || c.toNat == 0xFF9F)

def isPrintable (c : Char) : Bool :=
  if c.toNat < 128 then 32 ≤ c.toNat && c.toNat < 127
  else !inRanges unprintableRanges c.toNat && !isFiller c && !joinsBefore c

def hexDigits (n : Nat) : List Char := Nat.toDigits 16 n

def quoteChar (c : Char) : List Char :=
  if c == '\x00' then ['\\', '0']
  else if c == '\t' then ['\\', 't']
  else if c == '\r' then ['\\', 'r']
  else if c == '\n' then ['\\', 'n']
  else if c == '"' then ['\\', '"']
  else if c == '\\' then ['\\', '\\']
  else if isPrintable c then [c]
  else ['\\', 'u', '\x7b'] ++ hexDigits c.toNat ++ ['\x7d']

def quote (text : String) : String :=
  String.ofList ('"' :: text.toList.flatMap quoteChar ++ ['"'])

def quoteAll (texts : List String) : String :=
  "[" ++ String.intercalate ", " (texts.map quote) ++ "]"

end DeviceConfig.Text
