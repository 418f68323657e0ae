import DeviceConfig.Lambda.Header
import DeviceConfig.Proofs.Except
import DeviceConfig.Proofs.Lambda.Indentation
import DeviceConfig.Proofs.Program.Names

/-!
What is known of a lambda that was read: its body is a part of the text in balance, unindented, and its header is
well formed (`read_gives`).
-/

namespace DeviceConfig.Lambda

open Text

/-- Each bracket of the code closes the last one that is open, and none stays open. -/
def IsBalanced (text : List Char) : Prop := firstUnbalanced? 0 text = none

theorem isBalanced_unindent_iff {text : List Char} : IsBalanced (unindent text) ↔ IsBalanced text :=
  firstUnbalanced?_congr (bracketChars_unindent text)

theorem IsBalanced.unindent {text : List Char} (balanced : IsBalanced text) : IsBalanced (unindent text) :=
  isBalanced_unindent_iff.mpr balanced

theorem requireBalance_eq_ok_iff {piece : Piece} : requireBalance piece = .ok () ↔ IsBalanced piece.text := by
  have same : firstUnbalanced? piece.offset piece.text = none ↔ IsBalanced piece.text := firstUnbalanced?_congr rfl
  rw [← same, requireBalance]
  split
  · rename_i bracket found
    simp [found, fault]
  · rename_i none
    simp [none]

/-- A type that can be written in a header. -/
def IsReadable (type : CppType) : Prop := ∃ text, CppType.ofText? text = some type

structure Header.WellFormed (header : Header) : Prop where
  names : ∀ p ∈ header.parameters, Cpp.isName p.name = true
  types : ∀ p ∈ header.parameters, IsReadable p.type
  differ : (header.parameters.map (·.name)).Nodup
  result : ∀ type ∈ header.result, IsReadable type

theorem isName_cutName {text : List Char} (some : (cutName text).2 ≠ [])
    (noDigit : (cutName text).2.head?.any Decimal.isDigit = false) :
    Cpp.isName (String.ofList (cutName text).2) = true := by
  have named : ∀ c ∈ (cutName text).2, Cpp.isNameChar c = true :=
    fun c member => List.mem_takeWhile_imp (List.mem_reverse.mp member)
  rw [Cpp.isName, String.toList_ofList]
  cases whole : (cutName text).2 with
  | nil => exact absurd whole some
  | cons c rest =>
    rw [whole] at named noDigit
    obtain ⟨first, others⟩ := List.forall_mem_cons.mp named
    have start := Cpp.isNameStart_of_isNameChar first noDigit
    simpa [start] using others

theorem readParameter_gives {earlier : List Cpp.Parameter} {piece : Piece} {p : Cpp.Parameter}
    (read : readParameter earlier piece = .ok p) :
    Cpp.isName p.name = true ∧ IsReadable p.type ∧ p.name ∉ earlier.map (·.name) := by
  simp only [readParameter] at read
  split at read
  · cases read
  split at read
  · cases read
  split at read
  · cases read
  split at read
  · cases read
  rename_i named _ noDigit
  split at read
  · cases read
  rename_i type known
  split at read
  · cases read
  rename_i free
  cases read
  refine ⟨?_, ⟨_, known⟩, ?_⟩
  · exact isName_cutName (by simpa using named) (by simpa using noDigit)
  · simpa using free

theorem readPieces_gives {earlier parameters : List Cpp.Parameter} {pieces : List Piece}
    (read : readPieces earlier pieces = .ok parameters)
    (names : ∀ p ∈ earlier, Cpp.isName p.name = true) (types : ∀ p ∈ earlier, IsReadable p.type)
    (differ : (earlier.map (·.name)).Nodup) :
    (∀ p ∈ parameters, Cpp.isName p.name = true) ∧ (∀ p ∈ parameters, IsReadable p.type) ∧
      (parameters.map (·.name)).Nodup := by
  induction pieces generalizing earlier with
  | nil =>
    cases read
    exact ⟨names, types, differ⟩
  | cons piece rest ih =>
    rw [readPieces] at read
    split at read
    · rename_i p first
      obtain ⟨named, readable, free⟩ := readParameter_gives first
      refine ih read ?_ ?_ ?_
      · simpa [or_imp, forall_and] using ⟨names, named⟩
      · simpa [or_imp, forall_and] using ⟨types, readable⟩
      · rw [List.map_append, List.map_singleton, ← List.concat_eq_append, List.nodup_concat]
        exact ⟨free, differ⟩
    · cases read

theorem readParameters_gives {inside : Piece} {parameters : List Cpp.Parameter}
    (read : readParameters inside = .ok parameters) :
    (∀ p ∈ parameters, Cpp.isName p.name = true) ∧ (∀ p ∈ parameters, IsReadable p.type) ∧
      (parameters.map (·.name)).Nodup := by
  rw [readParameters] at read
  split at read
  · cases read
    simp
  · exact readPieces_gives read (by simp) (by simp) (by simp)

/-- What reading leaves of a text: a body that was in balance, without its indentation, after a header that is
    well formed. -/
structure IsReading (lambda : Lambda) : Prop where
  body : ∃ written, IsBalanced written ∧ lambda.body = String.ofList (unindent written)
  header : ∀ header ∈ lambda.header, header.WellFormed

theorem ofBody_gives {source : List Char} {lambda : Lambda} (read : ofBody source = .ok lambda) :
    IsReading lambda ∧ lambda.header = none := by
  obtain ⟨_, balanced, same⟩ := bind_eq_ok_iff.mp read
  cases same
  exact ⟨⟨⟨source, requireBalance_eq_ok_iff.mp balanced, rfl⟩, fun header member => nomatch member⟩, rfl⟩

theorem ofHeader_eq_ok_iff {parameters : Piece} {result : Option CppType} {brace : Nat} {rest : List Char}
    {lambda : Lambda} :
    ofHeader parameters result brace rest = .ok lambda ↔
      ∃ body trailing written, cutAtLast? '\x7d' rest = some (body, trailing) ∧ trailing.all isBlank = true ∧
        readParameters parameters = .ok written ∧ IsBalanced body ∧
        lambda = ⟨some ⟨written, result⟩, String.ofList (unindent body)⟩ := by
  rw [ofHeader]
  cases cut : cutAtLast? '\x7d' rest with
  | none => simp [fault]
  | some parts =>
    obtain ⟨body, trailing⟩ := parts
    by_cases blank : trailing.all isBlank = true
    · simp only [blank, Bool.not_true, Bool.false_eq_true, if_false, Option.some.injEq, Prod.mk.injEq]
      constructor
      · intro read
        obtain ⟨written, parametersRead, rest⟩ := bind_eq_ok_iff.mp read
        obtain ⟨_, balanced, same⟩ := bind_eq_ok_iff.mp rest
        cases same
        exact ⟨body, trailing, written, ⟨rfl, rfl⟩, blank, parametersRead, requireBalance_eq_ok_iff.mp balanced, rfl⟩
      · rintro ⟨_, _, written, ⟨rfl, rfl⟩, -, parametersRead, balanced, rfl⟩
        refine bind_eq_ok_iff.mpr ⟨written, parametersRead, bind_eq_ok_iff.mpr ⟨(), ?_, rfl⟩⟩
        exact requireBalance_eq_ok_iff.mpr balanced
    · simp only [blank, Bool.not_false, if_true, fault, bind, Except.bind, Option.some.injEq, Prod.mk.injEq]
      constructor
      · intro read
        cases read
      · rintro ⟨_, _, _, ⟨rfl, rfl⟩, other, -⟩
        exact absurd other blank

theorem ofHeader_gives {parameters : Piece} {result : Option CppType} {brace : Nat} {rest : List Char}
    {lambda : Lambda} (readable : ∀ type ∈ result, IsReadable type)
    (read : ofHeader parameters result brace rest = .ok lambda) : IsReading lambda := by
  obtain ⟨body, _, written, -, -, parametersRead, balanced, rfl⟩ := ofHeader_eq_ok_iff.mp read
  obtain ⟨names, types, differ⟩ := readParameters_gives parametersRead
  refine ⟨⟨body, balanced, rfl⟩, fun header member => ?_⟩
  cases member
  exact ⟨names, types, differ, readable⟩

theorem ofArrow_gives {parameters : Piece} {arrow : Nat} {tail : List Char} {lambda : Lambda}
    (read : ofArrow parameters arrow tail = .ok lambda) : IsReading lambda := by
  simp only [ofArrow] at read
  split at read
  · cases read
  split at read
  · cases read
  split at read
  · cases read
  rename_i type known
  refine ofHeader_gives (fun other member => ?_) read
  cases member
  exact ⟨_, known⟩

theorem read_gives {text : String} {lambda : Lambda} (accepted : read text = .ok lambda) : IsReading lambda := by
  simp only [read] at accepted
  split at accepted
  · split at accepted
    · cases accepted
    · split at accepted
      · exact ofArrow_gives accepted
      · exact ofHeader_gives (by simp) accepted
      · exact (ofBody_gives accepted).1
  · exact (ofBody_gives accepted).1

end DeviceConfig.Lambda
