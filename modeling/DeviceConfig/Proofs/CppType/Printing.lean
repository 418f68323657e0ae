import DeviceConfig.Cpp.Name
import DeviceConfig.Proofs.CppType.Reading
import DeviceConfig.Proofs.Text.Search
import DeviceConfig.Proofs.Text.Words

/-!
The text of a type can be read again: in it angle brackets match and commas stand inside them only (`IsNested`), so
that arguments are split where they were joined (`splitArgs?_intercalate`, `WellFormed.isTextOf`).
-/

namespace DeviceConfig.CppType

open Text

section Nested

/-- Neither a bracket nor a comma. -/
def isPlain (c : Char) : Bool := !(['<', '>', ',', '(', ')'].contains c)

/-- Angle brackets match, and commas stand inside them only, unless the text is itself `inside` such brackets. -/
inductive IsNested : (inside : Bool) → List Char → Prop
  | char {inside : Bool} (c : Char) (plain : isPlain c = true) : IsNested inside [c]
  | comma : IsNested true [',']
  | append {inside : Bool} {a b : List Char} (first : IsNested inside a) (second : IsNested inside b) :
      IsNested inside (a ++ b)
  | brackets {inside : Bool} {a : List Char} (between : IsNested true a) : IsNested inside ('<' :: a ++ ['>'])

variable {a b : List Char} {inside : Bool}

theorem IsNested.ne_nil (nested : IsNested inside a) : a ≠ [] := by
  induction nested with
  | char => simp
  | comma => simp
  | append _ _ some _ => simp [some]
  | brackets => simp

theorem IsNested.within (nested : IsNested inside a) : IsNested true a := by
  induction nested with
  | char c plain => exact .char c plain
  | comma => exact .comma
  | append _ _ first second => exact .append first second
  | brackets between _ => exact .brackets between

theorem isNested_of_plain (some : a ≠ []) (plain : ∀ c ∈ a, isPlain c = true) : IsNested inside a := by
  induction a with
  | nil => exact absurd rfl some
  | cons c rest ih =>
    obtain ⟨first, others⟩ := List.forall_mem_cons.mp plain
    by_cases last : rest = []
    · rw [last]
      exact .char c first
    · exact .append (.char c first) (ih last others)

theorem intercalate_append_cons (separator a b : List Char) (rest : List (List Char)) :
    separator.intercalate ((a ++ b) :: rest) = a ++ separator.intercalate (b :: rest) := by
  cases rest with
  | nil => simp only [List.intercalate_singleton]
  | cons next rest => simp only [List.intercalate_cons_cons, List.append_assoc]

theorem forall_mem_intercalate {holds : Char → Prop} {separator : List Char} {parts : List (List Char)}
    (between : ∀ c ∈ separator, holds c) (each : ∀ part ∈ parts, ∀ c ∈ part, holds c) :
    ∀ c ∈ separator.intercalate parts, holds c := by
  induction parts with
  | nil => simp
  | cons part rest ih =>
    obtain ⟨here, later⟩ := List.forall_mem_cons.mp each
    cases rest with
    | nil => rwa [List.intercalate_singleton]
    | cons next rest =>
      rw [List.intercalate_cons_cons]
      simp only [List.mem_append, or_imp, forall_and]
      exact ⟨⟨here, between⟩, ih later⟩

theorem isNested_intercalate {separator first : List Char} {others : List (List Char)}
    (between : IsNested true separator) (here : IsNested true first) (later : ∀ part ∈ others, IsNested true part) :
    IsNested true (separator.intercalate (first :: others)) := by
  induction others generalizing first with
  | nil => rwa [List.intercalate_singleton]
  | cons next rest ih =>
    obtain ⟨second, others⟩ := List.forall_mem_cons.mp later
    rw [List.intercalate_cons_cons]
    exact .append (.append here between) (ih second others)

end Nested

section Splitting

variable {depth : Nat} {rest : List Char}

theorem splitArgs?_comma : splitArgs? 0 (',' :: rest) = (splitArgs? 0 rest).map ([] :: ·) := by
  simp [splitArgs?]

theorem splitArgs?_cons {c : Char} {after : Nat} (stays : ¬(c = ',' ∧ depth = 0))
    (moves : (if c = '<' then some (depth + 1) else if c = '>' then if depth = 0 then none else some (depth - 1)
      else some depth) = some after) :
    splitArgs? depth (c :: rest) = (splitArgs? after rest).map (List.modifyHead ([c] ++ ·)) := by
  rw [splitArgs?, if_neg stays]
  simp only [moves]
  cases split : splitArgs? after rest with
  | none => rfl
  | some parts =>
    cases parts with
    | nil => exact absurd rfl (splitArgs?_ne_nil split)
    | cons part parts => rfl

theorem splitArgs?_open : splitArgs? depth ('<' :: rest) =
    (splitArgs? (depth + 1) rest).map (List.modifyHead (['<'] ++ ·)) :=
  splitArgs?_cons (by simp) rfl

theorem splitArgs?_close : splitArgs? (depth + 1) ('>' :: rest) =
    (splitArgs? depth rest).map (List.modifyHead (['>'] ++ ·)) :=
  splitArgs?_cons (by simp) rfl

/-- A nested text is neither cut nor does it change the depth. -/
theorem splitArgs?_append {inside : Bool} {a : List Char} (nested : IsNested inside a)
    (deep : inside = true → depth ≠ 0) :
    splitArgs? depth (a ++ rest) = (splitArgs? depth rest).map (List.modifyHead (a ++ ·)) := by
  induction nested generalizing depth rest with
  | char c plain =>
    refine splitArgs?_cons ?_ ?_
    · rintro ⟨rfl, -⟩
      cases plain
    · rw [if_neg, if_neg] <;>
      · rintro rfl
        cases plain
  -- inside brackets the depth is positive, so that a comma does not cut
  | comma => exact splitArgs?_cons (fun outside => deep rfl outside.2) rfl
  | append _ _ first second =>
    rw [List.append_assoc, first deep, second deep, Option.map_map]
    simp [Function.comp_def, List.modifyHead_modifyHead]
  | brackets _ between =>
    rw [List.append_assoc, List.cons_append, splitArgs?_open, between fun _ => Nat.succ_ne_zero depth,
      List.singleton_append, splitArgs?_close]
    simp [Function.comp_def, List.modifyHead_modifyHead]

/-- Joined texts are cut where they were joined. -/
theorem splitArgs?_intercalate {first : List Char} {others : List (List Char)} (here : IsNested false first)
    (later : ∀ part ∈ others, IsNested false part) :
    splitArgs? 0 ([','].intercalate (first :: others)) = some (first :: others) := by
  induction others generalizing first with
  | nil =>
    rw [List.intercalate_singleton, ← List.append_nil first, splitArgs?_append here nofun]
    rfl
  | cons next rest ih =>
    obtain ⟨second, others⟩ := List.forall_mem_cons.mp later
    rw [List.intercalate_cons_cons, List.append_assoc, splitArgs?_append here nofun, List.singleton_append,
      splitArgs?_comma, ih second others]
    simp

theorem intercalate_comma_blank (first : List Char) (others : List (List Char)) :
    [',', ' '].intercalate (first :: others) = [','].intercalate (first :: others.map ([' '] ++ ·)) := by
  induction others generalizing first with
  | nil => simp only [List.map_nil, List.intercalate_singleton]
  | cons next rest ih =>
    rw [List.map_cons, List.intercalate_cons_cons, List.intercalate_cons_cons, intercalate_append_cons, ih]
    simp

end Splitting

section Names

/-- The characters of the names of types. -/
def isWordChar (c : Char) : Bool := Cpp.isNameChar c || c == ':' || c == ' '

theorem isPlain_of_isWordChar {c : Char} (word : isWordChar c = true) : isPlain c = true := by
  rw [isPlain, Bool.not_eq_true', ← Bool.not_eq_true, List.contains_iff_mem]
  simp only [List.mem_cons, List.not_mem_nil, or_false, not_or]
  refine ⟨?_, ?_, ?_, ?_, ?_⟩ <;> exact ne_of_test word (by decide)

/-- The names that a type can start with. -/
def startNames : List String := knownNames ++ containers

variable {name : String}

theorem all_isWordChar_of_mem_startNames (known : name ∈ startNames) : ∀ c ∈ name.toList, isWordChar c = true := by
  have all : ∀ name ∈ startNames, name.toList.all isWordChar = true := by decide +kernel
  exact List.all_eq_true.mp (all name known)

theorem isTrimmed_of_mem_startNames (known : name ∈ startNames) : name.toList ≠ [] ∧ IsTrimmed name.toList := by
  have ends : ∀ name ∈ startNames, name.toList.isEmpty = false ∧
      name.toList.head?.all (!isBlank ·) = true ∧ name.toList.getLast?.all (!isBlank ·) = true := by
    decide +kernel
  obtain ⟨visible, first, last⟩ := ends name known
  refine ⟨List.isEmpty_eq_false_iff.mp visible, fun c member => ?_, fun c member => ?_⟩
  · rw [Option.mem_def.mp member] at first
    simpa using first
  · rw [Option.mem_def.mp member] at last
    simpa using last

theorem plain?_of_mem_knownNames (known : name ∈ knownNames) : plain? name.toList = some (named name) := by
  have all : ∀ name ∈ knownNames, plain? name.toList = some (named name) := by decide +kernel
  exact all name known

theorem isNested_of_mem_startNames (known : name ∈ startNames) (inside : Bool) : IsNested inside name.toList :=
  isNested_of_plain (isTrimmed_of_mem_startNames known).1 fun c member =>
    isPlain_of_isWordChar (all_isWordChar_of_mem_startNames known c member)

end Names

section Reading

theorem read?_congr {a b : List Char} (same : trim a = trim b) : read? a = read? b := by
  rw [read?_eq a, read?_eq b, same]

theorem mem_of_words_eq {a b : List Char} {c : Char} (same : words a = words b) (member : c ∈ a)
    (visible : isBlank c = false) : c ∈ b := by
  have inside : ∃ word ∈ words a, c ∈ word := exists_mem_words_iff.mpr ⟨member, visible⟩
  rw [same] at inside
  exact (exists_mem_words_iff.mp inside).1

theorem plain?_congr {a b : List Char} (same : words a = words b) : plain? a = plain? b := by
  rw [plain?, plain?, same]

/-- A known name is read in whatever way its words are set apart. -/
theorem read?_plain {text : List Char} {name : String} (known : name ∈ knownNames)
    (same : words text = words name.toList) : read? text = some (named name) := by
  have start : name ∈ startNames := List.mem_append_left _ known
  have trimmed : words (trim text) = words name.toList := (words_trim text).trans same
  have absent {c : Char} (outside : isWordChar c = false) (visible : isBlank c = false) : c ∉ trim text :=
    fun member => ne_of_test (all_isWordChar_of_mem_startNames start c (mem_of_words_eq trimmed member visible)) outside rfl
  have noArgs : cutAtChar? '<' (trim text) = none := cutAtChar?_eq_none_iff.mpr (absent (by decide) rfl)
  have plain : plain? (trim text) = some (named name) := (plain?_congr trimmed).trans (plain?_of_mem_knownNames known)
  rw [read?_eq]
  cases last : (trim text).getLast? with
  | none =>
    rw [List.getLast?_eq_none_iff.mp last] at plain
    cases plain
  | some final =>
    have noStar : final ≠ '*' := by
      rintro rfl
      exact absent (by decide) rfl (List.mem_of_getLast? last)
    simp only [if_neg noStar, noArgs, plain]

theorem read?_pointer {text after : List Char} {type : CppType} (read : read? text = some type)
    (noPointer : type.isPointer = false) (blankAfter : ∀ c ∈ after, isBlank c = true) :
    read? (text ++ '*' :: after) = some type.pointer := by
  have trimmed : IsTrimmed (trimStart text ++ ['*']) := by
    refine ⟨fun c first => ?_, fun c last => ?_⟩
    · cases start : trimStart text with
      | nil =>
        rw [start] at first
        cases first
        rfl
      | cons head rest =>
        rw [start] at first
        have head : ∀ c ∈ (trimStart text).head?, isBlank c = false := head_trimStart
        exact head c (by rw [start]; exact first)
    · rw [List.getLast?_concat] at last
      cases last
      rfl
  have blank : ∀ c ∈ text.takeWhile isBlank, isBlank c = true := fun _ => List.mem_takeWhile_imp
  have parts : text = text.takeWhile isBlank ++ trimStart text := List.takeWhile_append_dropWhile.symm
  have whole : trim (text ++ '*' :: after) = trimStart text ++ ['*'] := by
    have padded := trimmed.trim_padded blank blankAfter
    rwa [← List.append_assoc, ← parts, List.append_assoc, List.singleton_append] at padded
  have inner : read? (trimStart text) = some type := by
    rw [← read]
    refine read?_congr ?_
    have padded : trim (text.takeWhile isBlank ++ trimStart text ++ []) = trim (trimStart text) :=
      trim_padded blank (by simp)
    rw [List.append_nil, ← parts] at padded
    exact padded.symm
  rw [read?_eq, whole, List.getLast?_concat, List.dropLast_concat, inner]
  simp [noPointer]

theorem read?_container {name : String} {before between inside after : List Char} {parts : List (List Char)}
    {args : List CppType} (known : name ∈ containers) (blank : ∀ c ∈ before ++ between ++ after, isBlank c = true)
    (split : splitArgs? 0 inside = some parts)
    (each : List.Forall₂ (fun part arg => read? part = some arg) parts args) :
    read? (before ++ name.toList ++ between ++ '<' :: inside ++ '>' :: after) = some (mk name args false) := by
  obtain ⟨blankStart, blankAfter⟩ := List.forall_mem_append.mp blank
  obtain ⟨blankBefore, blankBetween⟩ := List.forall_mem_append.mp blankStart
  have start : name ∈ startNames := List.mem_append_right _ known
  obtain ⟨visible, trimmed⟩ := isTrimmed_of_mem_startNames start
  have angle : IsTrimmed ['>'] := by simp [IsTrimmed]; decide
  have around : IsTrimmed (name.toList ++ (between ++ '<' :: inside) ++ ['>']) :=
    trimmed.around angle visible (by simp) _
  have whole : trim (before ++ name.toList ++ between ++ '<' :: inside ++ '>' :: after) =
      name.toList ++ (between ++ '<' :: inside) ++ ['>'] := by
    rw [← around.trim_padded blankBefore blankAfter]
    simp only [List.append_assoc, List.singleton_append]
  have noArgs : '<' ∉ name.toList ++ between := by
    rw [List.mem_append, not_or]
    exact ⟨fun member => ne_of_test (all_isWordChar_of_mem_startNames start _ member) (by decide) rfl,
      fun member => ne_of_test (blankBetween _ member) (by decide) rfl⟩
  have cut : cutAtChar? '<' (name.toList ++ (between ++ '<' :: inside) ++ ['>']) =
      some (name.toList ++ between, inside ++ ['>']) :=
    cutAtChar?_eq_some_iff.mpr ⟨by simp, noArgs⟩
  have base : trim ([] ++ name.toList ++ between) = name.toList := trimmed.trim_padded (List.forall_mem_nil _) blankBetween
  rw [List.nil_append] at base
  rw [read?_eq, whole, List.getLast?_concat, cut]
  simp [base, known, split, mapM_eq_some_iff.mpr each, named, template, CppType.name, CppType.isPointer]

/-- Cut at its first opening bracket, a text that ends with a closing one has all the rest between the two. -/
theorem eq_of_cut_angle {text before after : List Char} (cut : cutAtChar? '<' text = some (before, after))
    (last : text.getLast? = some '>') : text = before ++ '<' :: after.dropLast ++ ['>'] := by
  obtain ⟨whole, -⟩ := eq_of_cutAtChar? cut
  have ends : after.getLast? = some '>' := by
    rw [whole, List.getLast?_append_of_ne_nil _ (List.cons_ne_nil _ _)] at last
    cases after with
    | nil => cases last
    | cons next rest => rwa [List.getLast?_cons_cons] at last
  rw [whole, List.append_assoc, List.cons_append, List.dropLast_append_getLast? _ ends]

theorem text_pointer (name : String) (args : List CppType) :
    (mk name args true).text.toList = (mk name args false).text.toList ++ [' '] ++ ['*'] := by
  simp [text]

theorem toList_text_plain (name : String) : (mk name [] false).text.toList = name.toList := by
  simp [text]

theorem toList_argsText (args : List CppType) :
    (argsText args).toList = [',', ' '].intercalate (args.map (·.text.toList)) := by
  induction args with
  | nil => simp [argsText]
  | cons arg rest ih =>
    cases rest with
    | nil => simp [argsText]
    | cons next rest => simp [argsText, ih, List.intercalate_cons_cons]

theorem toList_text_container (name : String) {args : List CppType} (some : args ≠ []) :
    (mk name args false).text.toList =
      name.toList ++ ('<' :: [',', ' '].intercalate (args.map (·.text.toList))) ++ ['>'] := by
  simp [text, some, toList_argsText]

/-- The characters of the texts of types. -/
def isTypeChar (c : Char) : Bool := isWordChar c || ['<', '>', ',', '*'].contains c

theorem isTypeChar_of_isWordChar {c : Char} (word : isWordChar c = true) : isTypeChar c = true := by
  rw [isTypeChar, word, Bool.true_or]

/-- A text that can be told apart from what stands around it, and is read as this type. -/
structure IsTextOf (text : List Char) (type : CppType) : Prop where
  visible : text ≠ []
  trimmed : IsTrimmed text
  chars : ∀ c ∈ text, isTypeChar c = true
  nested : IsNested false text
  read : read? text = some type

theorem IsTextOf.read_padded {text : List Char} {type : CppType} (held : IsTextOf text type) :
    read? ([' '] ++ text) = some type := by
  rw [← held.read]
  exact read?_congr (held.trimmed.trim_space.trans held.trimmed.trim_eq.symm)

theorem isTextOf_plain {name : String} (known : name ∈ knownNames) :
    IsTextOf (mk name [] false).text.toList (mk name [] false) := by
  have start : name ∈ startNames := List.mem_append_left _ known
  obtain ⟨visible, trimmed⟩ := isTrimmed_of_mem_startNames start
  have chars : ∀ c ∈ name.toList, isTypeChar c = true :=
    fun c member => isTypeChar_of_isWordChar (all_isWordChar_of_mem_startNames start c member)
  rw [toList_text_plain]
  exact ⟨visible, trimmed, chars, isNested_of_mem_startNames start false, read?_plain known rfl⟩

theorem isTextOf_container {name : String} {args : List CppType} (known : name ∈ containers) (some : args ≠ [])
    (each : ∀ arg ∈ args, IsTextOf arg.text.toList arg) :
    IsTextOf (mk name args false).text.toList (mk name args false) := by
  have start : name ∈ startNames := List.mem_append_right _ known
  obtain ⟨visible, trimmed⟩ := isTrimmed_of_mem_startNames start
  have angle : IsTrimmed ['>'] := by simp [IsTrimmed]; decide
  rw [toList_text_container name some]
  obtain ⟨first, others, rfl⟩ := List.exists_cons_of_ne_nil some
  obtain ⟨here, later⟩ := List.forall_mem_cons.mp each
  have laterTexts : ∀ part ∈ others.map (·.text.toList), IsNested false part :=
    List.forall_mem_map.mpr fun arg member => (later arg member).nested
  refine ⟨by simp, trimmed.around angle visible (by simp) _, ?_, ?_, ?_⟩
  · have argChars : ∀ c ∈ [',', ' '].intercalate ((first :: others).map (·.text.toList)), isTypeChar c = true :=
      forall_mem_intercalate (List.all_eq_true.mp rfl) (List.forall_mem_map.mpr fun arg member => (each arg member).chars)
    have nameChars : ∀ c ∈ name.toList, isTypeChar c = true :=
      fun c member => isTypeChar_of_isWordChar (all_isWordChar_of_mem_startNames start c member)
    have angles : isTypeChar '<' = true ∧ isTypeChar '>' = true := by decide
    simpa [or_imp, forall_and] using ⟨nameChars, angles.1, argChars, angles.2⟩
  · rw [List.append_assoc]
    have inside : IsNested true ([',', ' '].intercalate ((first :: others).map (·.text.toList))) :=
      isNested_intercalate (.append .comma (.char ' ' rfl)) here.nested.within
        fun part member => (laterTexts part member).within
    exact .append (isNested_of_mem_startNames start false) (.brackets inside)
  · have padded : ∀ part ∈ (others.map (·.text.toList)).map ([' '] ++ ·), IsNested false part :=
      List.forall_mem_map.mpr fun part member => .append (.char ' ' rfl) (laterTexts part member)
    have split := splitArgs?_intercalate here.nested padded
    rw [← intercalate_comma_blank] at split
    have each : List.Forall₂ (fun part arg => read? part = Option.some arg)
        ((others.map (·.text.toList)).map ([' '] ++ ·)) others := by
      rw [List.map_map, List.forall₂_map_left_iff, List.forall₂_same]
      exact fun arg member => (later arg member).read_padded
    have read := @read?_container name [] [] _ [] _ _ known (List.forall_mem_nil _) split (.cons here.read each)
    rwa [List.nil_append, List.append_nil] at read

theorem IsTextOf.pointer {text : List Char} {type : CppType} (held : IsTextOf text type)
    (noPointer : type.isPointer = false) : IsTextOf (text ++ [' '] ++ ['*']) type.pointer := by
  have star : IsTrimmed ['*'] := by simp [IsTrimmed]; decide
  refine ⟨by simp, held.trimmed.around star held.visible (by simp) [' '], ?_, ?_, ?_⟩
  · have starChars : isTypeChar ' ' = true ∧ isTypeChar '*' = true := by decide
    simpa [or_imp, forall_and] using ⟨held.chars, starChars⟩
  · exact .append (.append held.nested (.char ' ' rfl)) (.char '*' rfl)
  · have inner : read? (text ++ [' ']) = some type := by
      rw [← held.read]
      have padded : trim ([] ++ text ++ [' ']) = trim text := trim_padded (List.forall_mem_nil _) blank_space
      exact read?_congr padded
    exact read?_pointer inner noPointer (List.forall_mem_nil _)

/-- A well-formed type is read from its text. -/
theorem WellFormed.isTextOf {type : CppType} (wellFormed : type.WellFormed) : IsTextOf type.text.toList type := by
  induction wellFormed with
  | plain name isPointer known =>
    cases isPointer with
    | false => exact isTextOf_plain known
    | true =>
      rw [text_pointer]
      exact (isTextOf_plain known).pointer rfl
  | container name args isPointer known some _ each =>
    cases isPointer with
    | false => exact isTextOf_container known some each
    | true =>
      rw [text_pointer]
      exact (isTextOf_container known some each).pointer rfl

/-- The types that are read are those that are read from their own text. -/
theorem wellFormed_iff_ofText?_text {type : CppType} : type.WellFormed ↔ ofText? type.text = some type :=
  ⟨fun wellFormed => wellFormed.isTextOf.read, wellFormed_of_read?⟩

end Reading

end DeviceConfig.CppType
