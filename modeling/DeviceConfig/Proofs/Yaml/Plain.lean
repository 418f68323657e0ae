import DeviceConfig.Json.Basic
import DeviceConfig.Proofs.Lambda.Calls
import DeviceConfig.Yaml.Printer

/-!
Texts that stand in a document as they are. A number with a word behind it is read as a text and written without
quotes (`Yaml.stringText_measure`); in JSON letters and digits stand for themselves (`Json.stringText_of_named`).
-/

namespace DeviceConfig

namespace Yaml

section Shape

variable {text : List Char} {c : Char}

theorem isBreak_of_named (named : Cpp.isNameChar c = true) : isBreak c = false := by
  obtain ⟨low, high⟩ := Cpp.bounds_of_isNameChar named
  have number : c.toNat = c.val.toNat := rfl
  simp only [isBreak, number, Bool.or_eq_false_iff, beq_eq_false_iff_ne]
  exact ⟨⟨⟨⟨Text.ne_of_test named (by decide), Text.ne_of_test named (by decide)⟩, by omega⟩, by omega⟩, by omega⟩

theorem isSpace_of_named (named : Cpp.isNameChar c = true) : isSpace c = false :=
  beq_eq_false_iff_ne.mpr (Text.ne_of_test named (by decide))

theorem isShown_of_named (named : Cpp.isNameChar c = true) : isShown c = true := by
  obtain ⟨low, high⟩ := Cpp.bounds_of_isNameChar named
  have number : c.toNat = c.val.toNat := rfl
  simp only [isShown, number, Bool.or_eq_true, Bool.and_eq_true, decide_eq_true_eq]
  exact .inl (.inl (.inr ⟨by omega, by omega⟩))

theorem hasPair_eq_false {first second : Char → Bool} (none : ∀ c ∈ text, first c = false) :
    hasPair first second text = false := by
  induction text with
  | nil => rfl
  | cons a rest ih =>
    cases rest with
    | nil => rfl
    | cons b rest =>
      rw [hasPair, none a List.mem_cons_self, Bool.false_and, Bool.false_or]
      exact ih fun c member => none c (List.mem_cons_of_mem a member)

theorem hasInnerMark_of_named (named : ∀ c ∈ text, Cpp.isNameChar c = true) : hasInnerMark text = false := by
  induction text with
  | nil => rfl
  | cons a rest ih =>
    cases rest with
    | nil => rfl
    | cons b rest =>
      have here : Cpp.isNameChar b = true := named b (by simp)
      have colon : (b == ':') = false := beq_eq_false_iff_ne.mpr (Text.ne_of_test here (by decide))
      have sign : (b == '#') = false := beq_eq_false_iff_ne.mpr (Text.ne_of_test here (by decide))
      rw [hasInnerMark, colon, sign, Bool.false_and, Bool.false_and, Bool.false_or, Bool.false_or]
      exact ih fun c member => named c (List.mem_cons_of_mem a member)

theorem startsMarked_of_named (named : ∀ c ∈ text, Cpp.isNameChar c = true) : startsMarked text = false := by
  cases text with
  | nil => rfl
  | cons c rest =>
    have here : Cpp.isNameChar c = true := named c List.mem_cons_self
    have apart (mark : Char) (other : Cpp.isNameChar mark = false) : (c == mark) = false :=
      beq_eq_false_iff_ne.mpr (Text.ne_of_test here other)
    have others : ("#,[]\x7b\x7d&*!|>'\"%@\x60".toList.all fun mark => !Cpp.isNameChar mark) = true := by decide
    have free : "#,[]\x7b\x7d&*!|>'\"%@\x60".toList.contains c = false := by
      refine Bool.eq_false_iff.mpr fun member => ?_
      have other := List.all_eq_true.mp others c (List.contains_iff_mem.mp member)
      rw [here] at other
      cases other
    rw [startsMarked, free, apart '?' (by decide), apart ':' (by decide), apart '-' (by decide), List.isPrefixOf,
      BEq.comm, apart '-' (by decide), List.isPrefixOf, BEq.comm, apart '.' (by decide)]
    rfl

theorem allowsPlain_of_named (named : ∀ c ∈ text, Cpp.isNameChar c = true) : (Shape.of text).allowsPlain = true := by
  have breaks : ∀ c ∈ text, isBreak c = false := fun c member => isBreak_of_named (named c member)
  have spaces : ∀ c ∈ text, isSpace c = false := fun c member => isSpace_of_named (named c member)
  have broken : text.any isBreak = false := List.any_eq_false.mpr fun c member => by simp [breaks c member]
  have hidden : (text.any fun c => !isShown c) = false :=
    List.any_eq_false.mpr fun c member => by simp [isShown_of_named (named c member)]
  have outer : (Shape.of text).hasOuterBlank = false := by
    rw [Shape.of, Bool.or_eq_false_iff]
    constructor
    · cases first : text.head? with
      | none => rfl
      | some c =>
        have inside := List.mem_of_mem_head? first
        exact Bool.or_eq_false_iff.mpr ⟨spaces c inside, breaks c inside⟩
    · cases last : text.getLast? with
      | none => rfl
      | some c =>
        have inside := List.mem_of_getLast? last
        exact Bool.or_eq_false_iff.mpr ⟨spaces c inside, breaks c inside⟩
  have marked : (Shape.of text).hasMark = false :=
    Bool.or_eq_false_iff.mpr ⟨startsMarked_of_named named, hasInnerMark_of_named named⟩
  have spaceAfter : (Shape.of text).hasSpaceAfterBreak = false := hasPair_eq_false breaks
  have spaceBefore : (Shape.of text).hasSpaceBeforeBreak = false := hasPair_eq_false spaces
  have unbroken : (Shape.of text).hasBreak = false := broken
  have visible : (Shape.of text).hasHidden = false := hidden
  rw [Shape.allowsPlain, outer, marked, spaceAfter, spaceBefore, unbroken, visible]
  rfl

end Shape

section Measure

theorem digitsValue?_eq_none {base : Nat} {text : List Char} {c : Char} (inside : c ∈ text)
    (bad : Decimal.digitValue? base c = none) (sum : Nat) : Decimal.digitsValue? base sum text = none := by
  induction text generalizing sum with
  | nil => cases inside
  | cons first rest ih =>
    rcases List.mem_cons.mp inside with rfl | later
    · rw [Decimal.digitsValue?, bad, Option.bind_none]
    · rw [Decimal.digitsValue?]
      cases Decimal.digitValue? base first with
      | none => rfl
      | some d => exact ih later _

theorem toLower_of_isDigit {c : Char} (digit : Decimal.isDigit c = true) : c.toLower = c := by
  have low : c.val ≤ '9'.val := of_decide_eq_true (Bool.and_eq_true_iff.mp digit).2
  have below : ¬ (c.val ≥ 'A'.val ∧ c.val ≤ 'Z'.val) := fun upper =>
    absurd (UInt32.le_trans upper.1 low) (by decide)
  exact dif_neg below

/-- The letters that units of time begin with. -/
def unitMarks : List Char := ['u', 'm', 's', 'h']

/-- Digits and a word behind them that no number goes on with. -/
structure IsMeasure (text digits : List Char) (mark : Char) (word : List Char) : Prop where
  whole : text = digits ++ mark :: word
  nonempty : digits ≠ []
  digits : ∀ c ∈ digits, Decimal.isDigit c = true
  mark : mark ∈ unitMarks
  word : ∀ c ∈ word, Cpp.isNameChar c = true

namespace IsMeasure

variable {text digits word : List Char} {mark : Char}

theorem mark_passes (measure : IsMeasure text digits mark word) (test : Char → Bool)
    (all : unitMarks.all test = true) : test mark = true := List.all_eq_true.mp all mark measure.mark

theorem isDigit_mark (measure : IsMeasure text digits mark word) : Decimal.isDigit mark = false := by
  have other := measure.mark_passes (fun c => !Decimal.isDigit c) (by decide)
  exact Bool.not_eq_eq_eq_not.mp other

theorem takeWhile_isDigit (measure : IsMeasure text digits mark word) :
    text.takeWhile Decimal.isDigit = digits ∧ text.dropWhile Decimal.isDigit = mark :: word := by
  rw [measure.whole]
  refine Lambda.takeWhile_append_stop measure.digits fun c first => ?_
  exact Option.some.inj first ▸ measure.isDigit_mark

/-- A text that starts with no digit is another one. -/
theorem ne_of_start (measure : IsMeasure text digits mark word) {other : List Char}
    (start : other.head?.any Decimal.isDigit = false) : text ≠ other := by
  obtain ⟨first, rest, rfl⟩ := List.exists_cons_of_ne_nil measure.nonempty
  rw [measure.whole]
  rintro rfl
  rw [List.cons_append, List.head?_cons, Option.any_some, measure.digits first List.mem_cons_self] at start
  cases start

theorem named (measure : IsMeasure text digits mark word) : ∀ c ∈ text, Cpp.isNameChar c = true := by
  rw [measure.whole]
  intro c member
  rcases List.mem_append.mp member with inDigits | behind
  · have digit : c.isDigit = true := measure.digits c inDigits
    rw [Cpp.isNameChar, Char.isAlphanum, digit, Bool.or_true, Bool.true_or]
  · rcases List.mem_cons.mp behind with rfl | inWord
    · exact measure.mark_passes Cpp.isNameChar (by decide)
    · exact measure.word c inWord

/-- What follows the first character is a digit or the mark. -/
theorem second (measure : IsMeasure text digits mark word) {a b : Char} {rest : List Char}
    (whole : text = a :: b :: rest) : Decimal.isDigit b = true ∨ b = mark := by
  obtain ⟨first, more, rfl⟩ := List.exists_cons_of_ne_nil measure.nonempty
  obtain ⟨-, tail⟩ := List.cons.inj (measure.whole.symm.trans whole)
  cases more with
  | nil => exact .inr (List.cons.inj tail).1.symm
  | cons next more =>
    obtain ⟨rfl, -⟩ := List.cons.inj tail
    exact .inl (measure.digits next (by simp))

theorem ne_signed (measure : IsMeasure text digits mark word) (rest : List Char) :
    text ≠ '-' :: rest ∧ text ≠ '+' :: rest :=
  ⟨measure.ne_of_start rfl, measure.ne_of_start rfl⟩

theorem isPaddedNumber_eq_false (measure : IsMeasure text digits mark word) : isPaddedNumber text = false := by
  unfold isPaddedNumber
  split
  · exact absurd rfl (measure.ne_signed _).1
  · exact absurd rfl (measure.ne_signed _).2
  · dsimp only
    split
    · obtain ⟨first, more, rfl⟩ := List.exists_cons_of_ne_nil measure.nonempty
      obtain ⟨-, rfl⟩ := List.cons.inj measure.whole
      have mixed : (more ++ mark :: word).all Decimal.isDigit = false := by
        rw [List.all_append, List.all_cons, measure.isDigit_mark, Bool.false_and, Bool.and_false]
      exact Bool.and_eq_false_iff.mpr (.inr mixed)
    · rfl

theorem natural?_eq_none (measure : IsMeasure text digits mark word) : Decimal.natural? 10 text = none := by
  have letter := measure.mark_passes (fun c => (Decimal.digitValue? 10 c).isNone) (by decide)
  have inside : mark ∈ text := by simp [measure.whole]
  unfold Decimal.natural?
  split
  · rfl
  · exact digitsValue?_eq_none inside (Option.isNone_iff_eq_none.mp letter) 0

theorem magnitude?_eq_none (measure : IsMeasure text digits mark word) : magnitude? text = none := by
  have base (b : Char) (other : Decimal.isDigit b = false) (letter : b ∉ unitMarks) (rest : List Char) :
      text ≠ '0' :: b :: rest := by
    intro whole
    rcases measure.second whole with digit | rfl
    · rw [other] at digit
      cases digit
    · exact letter measure.mark
  unfold magnitude?
  split
  · exact absurd rfl (base 'x' (by decide) (by decide) _)
  · exact absurd rfl (base 'o' (by decide) (by decide) _)
  · exact absurd rfl (base 'b' (by decide) (by decide) _)
  · rw [measure.isPaddedNumber_eq_false, measure.natural?_eq_none]
    rfl

theorem wholeNumber?_eq_none (measure : IsMeasure text digits mark word) : wholeNumber? text = none := by
  unfold wholeNumber?
  split
  · exact absurd rfl (measure.ne_signed _).1
  · exact absurd rfl (measure.ne_signed _).2
  · rw [measure.magnitude?_eq_none]
    rfl

theorem unsignedFloat?_eq_none (measure : IsMeasure text digits mark word) : Decimal.unsignedFloat? text = none := by
  obtain ⟨taken, left⟩ := measure.takeWhile_isDigit
  have letter := measure.mark
  simp only [unitMarks, List.mem_cons, List.not_mem_nil, or_false] at letter
  unfold Decimal.unsignedFloat?
  rw [taken, left]
  -- none of the letters is a point or starts an exponent
  rcases letter with rfl | rfl | rfl | rfl
  all_goals
    dsimp only
    split
    · rename_i exponent
      have unread : (none : Option Int) = some _ := exponent
      cases unread
    · rfl

theorem float?_eq_none (measure : IsMeasure text digits mark word) : Decimal.float? text = none := by
  have other (name : String) (start : name.toList.head?.any Decimal.isDigit = false) :
      (String.ofList (text.map Char.toLower) == name) = false := by
    refine beq_eq_false_iff_ne.mpr fun same => ?_
    obtain ⟨first, more, rfl⟩ := List.exists_cons_of_ne_nil measure.nonempty
    have digit := measure.digits first List.mem_cons_self
    rw [← same, String.toList_ofList, measure.whole, List.cons_append, List.map_cons, List.head?_cons,
      Option.any_some, toLower_of_isDigit digit, digit] at start
    cases start
  unfold Decimal.float?
  split
  rename_i negative rest same
  split at same
  · exact absurd rfl (measure.ne_signed _).1
  · exact absurd rfl (measure.ne_signed _).2
  · cases same
    dsimp only
    rw [other "inf" (by decide), other "infinity" (by decide), other "nan" (by decide),
      measure.unsignedFloat?_eq_none]
    rfl

/-- A measure is none of some texts that start with no digit. -/
theorem contains_eq_false (measure : IsMeasure text digits mark word) {names : List String}
    (others : ∀ name ∈ names, name.toList.head?.any Decimal.isDigit = false) :
    names.contains (String.ofList text) = false := by
  refine Bool.eq_false_iff.mpr fun listed => ?_
  exact measure.ne_of_start (others _ (List.contains_iff_mem.mp listed)) String.toList_ofList.symm

theorem floatOfText?_eq_none (measure : IsMeasure text digits mark word) : floatOfText? text = none := by
  rw [floatOfText?, measure.contains_eq_false (by decide), measure.contains_eq_false (by decide),
    measure.contains_eq_false (by decide), measure.float?_eq_none]
  · rfl
  · exact fun rest => (measure.ne_signed rest).2

theorem ofPlain_eq (measure : IsMeasure text digits mark word) :
    ofPlain (String.ofList text) = .ok (.string (String.ofList text)) := by
  have present : (String.ofList text).isEmpty = false := by
    rw [String.isEmpty_eq_false_iff, ne_eq, String.ofList_eq_empty_iff, measure.whole]
    exact List.append_ne_nil_of_left_ne_nil measure.nonempty _
  have noBool : boolOfText? (String.ofList text) = none := by
    rw [boolOfText?, measure.contains_eq_false (by decide), measure.contains_eq_false (by decide)]
    rfl
  rw [ofPlain, present, isNullText, measure.contains_eq_false (by decide), noBool, String.toList_ofList,
    measure.isPaddedNumber_eq_false, measure.floatOfText?_eq_none, measure.wholeNumber?_eq_none]
  rfl

theorem readsAsOther_eq_false (measure : IsMeasure text digits mark word) :
    readsAsOther (String.ofList text) = false := by
  rw [readsAsOther, String.toList_ofList, measure.isPaddedNumber_eq_false, measure.ofPlain_eq]
  rfl

end IsMeasure

/-- A measure is written without quotes. -/
theorem stringText_measure {text digits word : List Char} {mark : Char} (measure : IsMeasure text digits mark word)
    (indent : Nat) (isSimpleKey : Bool) :
    stringText (String.ofList text) indent isSimpleKey = String.ofList text := by
  have oneLine : text.contains '\n' = false := Bool.eq_false_iff.mpr fun listed =>
    Text.ne_of_test (measure.named _ (List.contains_iff_mem.mp listed)) (by decide) rfl
  have style : styleOf (String.ofList text) isSimpleKey = .plain := by
    rw [styleOf, String.toList_ofList, oneLine, measure.readsAsOther_eq_false, allowsPlain_of_named measure.named]
    rfl
  rw [stringText, style]

end Measure

end Yaml

namespace Json

theorem escapeChar_of_named {c : Char} (named : Cpp.isNameChar c = true) : escapeChar c = [c] := by
  obtain ⟨low, -⟩ := Cpp.bounds_of_isNameChar named
  have number : c.toNat = c.val.toNat := rfl
  have apart (mark : Char) (other : Cpp.isNameChar mark = false) : (c == mark) = false :=
    beq_eq_false_iff_ne.mpr (Text.ne_of_test named other)
  have backspace : (c.toNat == 8) = false := beq_eq_false_iff_ne.mpr (by omega)
  have formFeed : (c.toNat == 12) = false := beq_eq_false_iff_ne.mpr (by omega)
  have shown : ¬ c.toNat < 32 := by omega
  rw [escapeChar, apart '"' (by decide), apart '\\' (by decide), apart '\n' (by decide), apart '\r' (by decide),
    apart '\t' (by decide), backspace, formFeed, if_neg shown]
  rfl

/-- Letters, digits and underscores stand for themselves. -/
theorem stringText_of_named {text : List Char} (named : ∀ c ∈ text, Cpp.isNameChar c = true) :
    stringText (String.ofList text) = String.ofList ('"' :: text ++ ['"']) := by
  have each : text.flatMap escapeChar = text.flatMap fun c => [c] :=
    List.flatMap_congr fun c member => escapeChar_of_named (named c member)
  rw [stringText, String.toList_ofList, each, List.flatMap_singleton']

end Json

end DeviceConfig
