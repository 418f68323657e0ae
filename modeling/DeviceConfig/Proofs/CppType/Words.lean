import DeviceConfig.Proofs.CppType.Printing
import DeviceConfig.Proofs.Program.Contents

/-!
The words in the text of a type are those in the names that it is made of (`CppType.words_text`).
-/

namespace DeviceConfig

namespace Cpp

/-- The words of a text: its longest pieces of characters of names. -/
def words (text : List Char) : List String :=
  ((text.splitOnP fun c => !isNameChar c).filter fun word => !word.isEmpty).map String.ofList

variable {before after : List Char} {mark : Char}

theorem words_append (between : isNameChar mark = false) :
    words (before ++ mark :: after) = words before ++ words after := by
  have marked : (!isNameChar mark) = true := by rw [between]; rfl
  have split := @List.splitOnP_append_cons _ (fun c => !isNameChar c) before after mark marked
  rw [words, split, List.filter_append, List.map_append, words, words]

theorem words_cons (between : isNameChar mark = false) : words (mark :: after) = words after :=
  @words_append [] after mark between

theorem words_concat (between : isNameChar mark = false) : words (before ++ [mark]) = words before := by
  rw [words_append between]
  exact List.append_nil _

theorem words_intercalate (texts : List (List Char)) :
    words ([',', ' '].intercalate texts) = texts.flatMap words := by
  have comma : isNameChar ',' = false := by decide
  have blank : isNameChar ' ' = false := by decide
  induction texts with
  | nil => rfl
  | cons text rest ih =>
    cases rest with
    | nil => simp
    | cons next rest =>
      rw [List.intercalate_cons_cons, List.append_assoc, List.cons_append, List.singleton_append,
        words_append comma, words_cons blank, ih]
      rfl

end Cpp

namespace CppType

open Cpp

/-- The words in the text of the type, such as `std` and `string` in `std::string`. -/
def words (type : CppType) : List String := Cpp.words type.text.toList

mutual

theorem words_text : (type : CppType) → type.words = type.names.flatMap fun name => Cpp.words name.toList
  | mk name args isPointer => by
    have pointer : (mk name args isPointer).words = (mk name args false).words := by
      cases isPointer with
      | false => rfl
      | true => rw [words, text_pointer, words_concat (by decide), words_concat (by decide), words]
    have plain : (mk name args false).words = Cpp.words name.toList ++ args.flatMap words := by
      by_cases none : args = []
      · rw [none, words, toList_text_plain, List.flatMap_nil, List.append_nil]
      · rw [words, toList_text_container name none, words_concat (by decide), words_append (by decide),
          words_intercalate, List.flatMap_map]
        rfl
    rw [pointer, plain, words_args args, names, List.flatMap_cons]

theorem words_args : (args : List CppType) →
    args.flatMap words = (argNames args).flatMap fun name => Cpp.words name.toList
  | [] => rfl
  | arg :: rest => by
    rw [List.flatMap_cons, words_text arg, words_args rest, argNames, List.flatMap_append]

end

/-- The words of the types that there are. -/
def vocabularyWords : List String := vocabulary.flatMap fun name => Cpp.words name.toList

theorem Known.words {type : CppType} (known : type.Known) : ∀ word ∈ type.words, word ∈ vocabularyWords := by
  intro word member
  rw [words_text] at member
  obtain ⟨name, inside, held⟩ := List.mem_flatMap.mp member
  exact List.mem_flatMap.mpr ⟨name, known name inside, held⟩

end CppType

end DeviceConfig
