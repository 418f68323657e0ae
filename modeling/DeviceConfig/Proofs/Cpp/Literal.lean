import DeviceConfig.Cpp.Literal
import Mathlib.Data.List.TakeWhile

/-!
String literals as a compiler reads them. Whatever text follows a literal, reading it gives the bytes of the text
that was written and stops right behind it (`readString?_stringLiteral`).
-/

namespace DeviceConfig

namespace Text

theorem toList_eq_data (bytes : ByteArray) : bytes.toList = bytes.data.toList := by
  suffices fromHere : ∀ i read,
      ByteArray.toList.loop bytes i read = read.reverse ++ bytes.data.toList.drop i by
    exact fromHere 0 []
  intro i read
  fun_induction ByteArray.toList.loop bytes i read with
  | case1 i read inside ih =>
    have place : i < bytes.data.toList.length := by simpa using inside
    have byte : bytes.get! i = bytes.data.toList[i] := by
      simp [ByteArray.get!, getElem!_pos bytes.data i inside]
    rw [ih, byte, List.drop_eq_getElem_cons place]
    simp
  | case2 i read outside =>
    have past : bytes.data.toList.length ≤ i := by simpa using outside
    simp [List.drop_eq_nil_of_le past]

theorem toList_toByteArray (text : String) :
    text.toByteArray.toList = text.toList.flatMap String.utf8EncodeChar := by
  conv => lhs; rw [← String.ofList_toList (s := text), String.toByteArray_ofList]
  rw [toList_eq_data, List.utf8Encode, List.toList_data_toByteArray]

end Text

namespace Cpp

def isOctalDigit (c : Char) : Bool := '0' ≤ c && c ≤ '7'

/-- The digits that belong to an escape: all octal digits after the backslash, but three at most. -/
def escapeDigits (text : List Char) : List Char := (text.take 3).takeWhile isOctalDigit

/-- Reads the rest of a string literal, up to the first quote that is no part of an escape: the bytes that the
    literal stands for, and the text behind it. An escape needs a digit and stands for one byte. -/
def readInside? : List Char → Option (List UInt8 × List Char)
  | [] => none
  | '"' :: rest => some ([], rest)
  | '\\' :: rest =>
    let digits := escapeDigits rest
    let value := Nat.ofDigitChars 8 digits 0
    if digits = [] ∨ 256 ≤ value then none
    else (readInside? (rest.drop digits.length)).map fun (bytes, after) => (UInt8.ofNat value :: bytes, after)
  | c :: rest => (readInside? rest).map fun (bytes, after) => (String.utf8EncodeChar c ++ bytes, after)
termination_by text => text.length
decreasing_by
  · simp only [List.length_drop, List.length_cons]
    omega
  · simp only [List.length_cons]
    omega

def readString? : List Char → Option (List UInt8 × List Char)
  | '"' :: rest => readInside? rest
  | _ => none

theorem readInside?_quote (rest : List Char) : readInside? ('"' :: rest) = some ([], rest) := by
  rw [readInside?]

theorem readInside?_plain {c : Char} (noQuote : c ≠ '"') (noBackslash : c ≠ '\\') (rest : List Char) :
    readInside? (c :: rest) =
      (readInside? rest).map fun (bytes, after) => (String.utf8EncodeChar c ++ bytes, after) := by
  rw [readInside?]
  · exact noQuote
  · exact noBackslash

theorem forall_mem_octal {holds : Char → Bool} (each : ∀ d < 8, holds (Nat.digitChar d) = true) (n : Nat) :
    ∀ c ∈ octal n, holds c = true := by
  have digit (k : Nat) : holds (Nat.digitChar (k % 8)) = true := each _ (Nat.mod_lt k (by decide))
  simp only [octal, List.forall_mem_cons, List.not_mem_nil, false_implies, implies_true, and_true]
  exact ⟨digit _, digit _, digit _⟩

theorem escapeDigits_octal (n : Nat) (rest : List Char) : escapeDigits (octal n ++ rest) = octal n := by
  have three : (octal n ++ rest).take 3 = octal n := rfl
  rw [escapeDigits, three, List.takeWhile_eq_self_iff]
  exact forall_mem_octal (by decide) n

theorem ofDigitChars_octal {n : Nat} (small : n < 512) : Nat.ofDigitChars 8 (octal n) 0 = n := by
  have digit (k : Nat) : k % 8 < 10 := by omega
  rw [octal, Nat.ofDigitChars_cons_digitChar_of_lt_ten (digit _), Nat.ofDigitChars_cons_digitChar_of_lt_ten (digit _),
    Nat.ofDigitChars_cons_digitChar_of_lt_ten (digit _), Nat.ofDigitChars_nil]
  omega

/-- Three digits are the most that an escape can have, so what follows them is no part of it. -/
theorem readInside?_octal (byte : UInt8) (rest : List Char) :
    readInside? ('\\' :: octal byte.toNat ++ rest) =
      (readInside? rest).map fun (bytes, after) => (byte :: bytes, after) := by
  have small := byte.toNat_lt
  have value : Nat.ofDigitChars 8 (octal byte.toNat) 0 = byte.toNat := ofDigitChars_octal (by omega)
  have valid : ¬(octal byte.toNat = [] ∨ 256 ≤ byte.toNat) := by
    rintro (empty | large)
    · cases empty
    · omega
  rw [List.cons_append, readInside?, escapeDigits_octal, value, if_neg valid, List.drop_left, UInt8.ofNat_toNat]

theorem isPlainByte_iff (byte : UInt8) :
    isPlainByte byte = true ↔ 32 ≤ byte.toNat ∧ byte.toNat < 127 ∧ byte.toNat ≠ 92 ∧ byte.toNat ≠ 34 := by
  simp only [isPlainByte, Bool.and_eq_true, decide_eq_true_eq, ne_eq, UInt8.le_iff_toNat_le, UInt8.lt_iff_toNat_lt,
    ← UInt8.toNat_inj]
  simp [and_assoc]

theorem toNat_ofNat_of_ascii {n : Nat} (ascii : n < 128) : (Char.ofNat n).toNat = n := by
  revert n
  decide

theorem utf8EncodeChar_of_ascii {byte : UInt8} (ascii : byte.toNat < 128) :
    String.utf8EncodeChar (Char.ofNat byte.toNat) = [byte] := by
  have value : (Char.ofNat byte.toNat).val.toNat = byte.toNat := toNat_ofNat_of_ascii ascii
  have low : byte.toNat ≤ 127 := by omega
  simp [String.utf8EncodeChar, value, low]

theorem readInside?_escapeByte (byte : UInt8) (rest : List Char) :
    readInside? (escapeByte byte ++ rest) =
      (readInside? rest).map fun (bytes, after) => (byte :: bytes, after) := by
  rw [escapeByte]
  split
  · rename_i plain
    obtain ⟨-, printable, noBackslash, noQuote⟩ := (isPlainByte_iff byte).mp plain
    have ascii : byte.toNat < 128 := by omega
    -- neither the quote nor the backslash, so it is read by itself
    have differs {c : Char} (other : byte.toNat ≠ c.toNat) : Char.ofNat byte.toNat ≠ c := by
      rintro rfl
      exact other (toNat_ofNat_of_ascii ascii).symm
    rw [List.singleton_append, readInside?_plain (differs noQuote) (differs noBackslash), utf8EncodeChar_of_ascii ascii]
    rfl
  · exact readInside?_octal byte rest

theorem readInside?_escaped (bytes : List UInt8) (rest : List Char) :
    readInside? (bytes.flatMap escapeByte ++ '"' :: rest) = some (bytes, rest) := by
  induction bytes with
  | nil => exact readInside?_quote rest
  | cons byte bytes ih =>
    rw [List.flatMap_cons, List.append_assoc, readInside?_escapeByte, ih]
    rfl

def isPrintableAscii (c : Char) : Bool := 32 ≤ c.toNat && c.toNat ≤ 126

theorem isPrintableAscii_of_mem_escapeByte {byte : UInt8} {c : Char} (member : c ∈ escapeByte byte) :
    isPrintableAscii c = true := by
  rw [escapeByte] at member
  split at member
  · rename_i plain
    obtain ⟨visible, printable, -⟩ := (isPlainByte_iff byte).mp plain
    obtain rfl := List.mem_singleton.mp member
    have code : (Char.ofNat byte.toNat).toNat = byte.toNat := toNat_ofNat_of_ascii (by omega)
    simp only [isPrintableAscii, code, Bool.and_eq_true, decide_eq_true_eq]
    omega
  · rcases List.mem_cons.mp member with rfl | digit
    · rfl
    · exact forall_mem_octal (by decide) _ c digit

/-- A string literal is written with printable characters of ASCII only. It is read to its end and no further,
    whatever text follows, and it stands for the bytes of its text; so different texts have different literals. -/
theorem readString?_stringLiteral :
    (∀ text : String, ∃ inside : List Char,
      (stringLiteral text).toList = '"' :: inside ++ ['"'] ∧ (∀ c ∈ inside, isPrintableAscii c = true) ∧
      ∀ rest, readString? ((stringLiteral text).toList ++ rest) =
        some (text.toList.flatMap String.utf8EncodeChar, rest)) ∧
    Function.Injective stringLiteral := by
  have written (text : String) : (stringLiteral text).toList =
      '"' :: text.toByteArray.toList.flatMap escapeByte ++ ['"'] := String.toList_ofList
  have read (text : String) (rest : List Char) :
      readString? ((stringLiteral text).toList ++ rest) = some (text.toByteArray.toList, rest) := by
    rw [written, List.append_assoc, List.cons_append, readString?, List.singleton_append]
    exact readInside?_escaped _ rest
  refine ⟨fun text => ⟨text.toByteArray.toList.flatMap escapeByte, written text, fun c member => ?_, fun rest => ?_⟩,
    fun text other same => ?_⟩
  · obtain ⟨byte, -, own⟩ := List.mem_flatMap.mp member
    exact isPrintableAscii_of_mem_escapeByte own
  · rw [read, Text.toList_toByteArray]
  · have alike := read text []
    rw [same, read] at alike
    have bytes : other.toByteArray.toList = text.toByteArray.toList := (Prod.mk.inj (Option.some.inj alike)).1
    rw [Text.toList_eq_data, Text.toList_eq_data, Array.toList_inj] at bytes
    exact String.toByteArray_inj.mp (ByteArray.ext bytes.symm)

/-- The digit behind the escape of the line feed is no part of it. -/
example : readString? (stringLiteral "\n7\"é").toList = some ([10, 55, 34, 195, 169], []) := by cbv

end Cpp

end DeviceConfig
