import DeviceConfig.Proofs.CppType.Printing

/-!
The texts that are read as types are the spellings of well-formed types (`read?_eq_some_iff`), the text of a type among
them (`ofText?_spells_text`).
-/

namespace DeviceConfig.CppType

open Text

/-- The text is one of the ways to write the type: blanks may stand around names, brackets, commas and stars, and a
    run of them counts as one space inside a name. -/
inductive Spells : List Char → CppType → Prop
  | plain {text : List Char} {name : String} (known : name ∈ knownNames) (same : words text = words name.toList) :
      Spells text (named name)
  | pointer {text after : List Char} {type : CppType} (inner : Spells text type) (single : type.isPointer = false)
      (blank : ∀ c ∈ after, isBlank c = true) : Spells (text ++ '*' :: after) type.pointer
  | container {name : String} {before between after : List Char} {parts : List (List Char × CppType)}
      (known : name ∈ containers) (some : parts ≠ []) (blank : ∀ c ∈ before ++ between ++ after, isBlank c = true)
      (each : ∀ part ∈ parts, Spells part.1 part.2) :
      Spells (before ++ name.toList ++ between ++ '<' :: [','].intercalate (parts.map (·.1)) ++ '>' :: after)
        (mk name (parts.map (·.2)) false)

section Spellings

variable {text : List Char} {type : CppType}

theorem Spells.padded {before after : List Char} (spelled : Spells text type) (blank : ∀ c ∈ before, isBlank c = true)
    (blankAfter : ∀ c ∈ after, isBlank c = true) : Spells (before ++ text ++ after) type := by
  induction spelled generalizing after with
  | plain known same => exact .plain known ((words_padded blank blankAfter).trans same)
  | @pointer text finish type _ single blankFinish ih =>
    have inner : Spells (before ++ text ++ []) type := ih (List.forall_mem_nil _)
    rw [List.append_nil] at inner
    have whole : before ++ (text ++ '*' :: finish) ++ after = before ++ text ++ '*' :: (finish ++ after) := by simp
    rw [whole]
    exact .pointer inner single (List.forall_mem_append.mpr ⟨blankFinish, blankAfter⟩)
  | @container name start between finish parts known some blanks each =>
    have whole : before ++ (start ++ name.toList ++ between ++ '<' :: [','].intercalate (parts.map (·.1)) ++ '>' :: finish)
        ++ after = before ++ start ++ name.toList ++ between ++ '<' :: [','].intercalate (parts.map (·.1)) ++
          '>' :: (finish ++ after) := by simp
    rw [whole]
    refine .container known some ?_ each
    simp only [List.forall_mem_append] at blanks ⊢
    exact ⟨⟨⟨blank, blanks.1.1⟩, blanks.1.2⟩, blanks.2, blankAfter⟩

theorem isPlain_of_isBlank {c : Char} (blank : isBlank c = true) : isPlain c = true := by
  rw [isPlain, Bool.not_eq_true', ← Bool.not_eq_true, List.contains_iff_mem]
  simp only [List.mem_cons, List.not_mem_nil, or_false, not_or]
  refine ⟨?_, ?_, ?_, ?_, ?_⟩ <;> exact ne_of_test blank rfl

/-- Blanks neither open nor cut anything. -/
theorem IsNested.padded {inside : Bool} {before after : List Char} (nested : IsNested inside text)
    (blank : ∀ c ∈ before, isBlank c = true) (blankAfter : ∀ c ∈ after, isBlank c = true) :
    IsNested inside (before ++ text ++ after) := by
  have start : IsNested inside (before ++ text) := by
    by_cases none : before = []
    · rwa [none]
    · exact .append (isNested_of_plain none fun c member => isPlain_of_isBlank (blank c member)) nested
  by_cases none : after = []
  · rwa [none, List.append_nil]
  · exact .append start (isNested_of_plain none fun c member => isPlain_of_isBlank (blankAfter c member))

theorem Spells.isNested (spelled : Spells text type) : IsNested false text := by
  induction spelled with
  | @plain text name known same =>
    have start : name ∈ startNames := List.mem_append_left _ known
    refine isNested_of_plain ?_ fun c member => ?_
    · rintro rfl
      have read : plain? [] = some (named name) := (plain?_congr same).trans (plain?_of_mem_knownNames known)
      cases read
    · cases blank : isBlank c with
      | true => exact isPlain_of_isBlank blank
      | false =>
        exact isPlain_of_isWordChar (all_isWordChar_of_mem_startNames start c (mem_of_words_eq same member blank))
  | pointer _ _ blank nested =>
    have padded := (nested.append (.char '*' rfl)).padded (List.forall_mem_nil _) blank
    simpa using padded
  | @container name before between after parts known some blank _ each =>
    obtain ⟨blankStart, blankAfter⟩ := List.forall_mem_append.mp blank
    obtain ⟨blankBefore, blankBetween⟩ := List.forall_mem_append.mp blankStart
    obtain ⟨first, others, rfl⟩ := List.exists_cons_of_ne_nil some
    have start : IsNested false name.toList := isNested_of_mem_startNames (List.mem_append_right _ known) false
    obtain ⟨here, later⟩ := List.forall_mem_cons.mp each
    have inside : IsNested true ([','].intercalate ((first :: others).map (·.1))) :=
      isNested_intercalate .comma here.within (List.forall_mem_map.mpr fun part member => (later part member).within)
    have brackets := (start.padded blankBefore blankBetween).append (.brackets inside)
    simpa using brackets.padded (List.forall_mem_nil _) blankAfter

/-- A spelling is read as the type that it spells. -/
theorem Spells.read (spelled : Spells text type) : read? text = some type := by
  induction spelled with
  | plain known same => exact read?_plain known same
  | pointer _ single blank ih => exact read?_pointer ih single blank
  | @container name before between after parts known some blank each ih =>
    obtain ⟨first, others, rfl⟩ := List.exists_cons_of_ne_nil some
    obtain ⟨here, later⟩ := List.forall_mem_cons.mp each
    have split : splitArgs? 0 ([','].intercalate ((first :: others).map (·.1))) =
        Option.some ((first :: others).map (·.1)) :=
      splitArgs?_intercalate here.isNested (List.forall_mem_map.mpr fun part member => (later part member).isNested)
    refine read?_container known blank split ?_
    rw [List.forall₂_map_left_iff, List.forall₂_map_right_iff, List.forall₂_same]
    exact ih

theorem intercalate_of_splitArgs? {depth : Nat} {parts : List (List Char)} (split : splitArgs? depth text = some parts) :
    [','].intercalate parts = text := by
  induction text generalizing depth parts with
  | nil =>
    simp only [splitArgs?] at split
    split at split
    · cases split
      rfl
    · cases split
  | cons c rest ih =>
    simp only [splitArgs?] at split
    split at split
    · rename_i cut
      obtain ⟨others, later, rfl⟩ := Option.map_eq_some_iff.mp split
      obtain ⟨next, more, rfl⟩ := List.exists_cons_of_ne_nil (splitArgs?_ne_nil later)
      rw [List.intercalate_cons_cons, ih later, cut.1]
      rfl
    · split at split
      · cases split
      · split at split
        · rename_i part others later
          cases split
          rw [← ih later]
          exact intercalate_append_cons [','] [c] part others
        · cases split

theorem words_of_plain? {name : String} (read : plain? text = some (named name)) : words text = words name.toList := by
  simp only [plain?] at read
  split at read
  · injection read with same
    injection same with same
    have joined : (String.intercalate " " ((words text).map String.ofList)).toList = [' '].intercalate (words text) := by
      simp [String.toList_intercalate, Function.comp_def]
    rw [← same, joined, words_intercalate_words]
  · cases read

theorem Spells.of_trim (spelled : Spells (trim text) type) : Spells text type := by
  obtain ⟨after, blankAfter, whole⟩ := exists_blanks_around_trim text
  rw [whole]
  exact spelled.padded (fun _ => List.mem_takeWhile_imp) blankAfter

theorem Spells.of_parts {name : String} {before between after : List Char} {texts : List (List Char)}
    {args : List CppType} (known : name ∈ containers) (some : texts ≠ [])
    (blank : ∀ c ∈ before ++ between ++ after, isBlank c = true) (each : List.Forall₂ Spells texts args) :
    Spells (before ++ name.toList ++ between ++ '<' :: [','].intercalate texts ++ '>' :: after) (mk name args false) := by
  have same : texts.length = args.length := each.length_eq
  have firsts : (texts.zip args).map (·.1) = texts := List.map_fst_zip (Nat.le_of_eq same)
  have seconds : (texts.zip args).map (·.2) = args := List.map_snd_zip (Nat.le_of_eq same.symm)
  have pairs : texts.zip args ≠ [] := by
    intro none
    rw [none] at firsts
    exact some firsts.symm
  have spelled := Spells.container known pairs blank fun part member => (List.forall₂_iff_zip.mp each).2 member
  rwa [firsts, seconds] at spelled

/-- What is read is spelled; the blanks that reading trims away are put around the spelling again. -/
theorem spells_of_read? (read : read? text = some type) : Spells text type := by
  fun_induction read? text generalizing type with
  | case3 text trimmed inner held single last =>
    rename_i ih
    cases read
    have whole : trimmed.dropLast ++ ['*'] = trim text := List.dropLast_append_getLast? _ last
    have spelled : Spells (trimmed.dropLast ++ ['*']) inner.pointer :=
      .pointer (ih held) (Bool.eq_false_iff.mpr single) (List.forall_mem_nil _)
    rw [whole] at spelled
    exact spelled.of_trim
  | case5 text trimmed final _ _ =>
    obtain ⟨name, known, rfl⟩ := exists_name_of_plain? read
    exact (Spells.plain known (words_of_plain? read)).of_trim
  | case10 text trimmed final last _ before after cut angle base known parts split args held =>
    rename_i ih
    cases read
    have each : List.Forall₂ (fun part arg => read? part.val = some arg) parts.attach args :=
      mapM_eq_some_iff.mp held
    have spelled : List.Forall₂ Spells parts args := by
      have inner := each.imp fun part arg => ih part
      rwa [← List.forall₂_map_left_iff, List.attach_map_subtype_val] at inner
    obtain rfl : final = '>' := not_not.mp angle
    have whole : trim text = before ++ '<' :: after.dropLast ++ ['>'] := eq_of_cut_angle cut last
    obtain ⟨finish, blankFinish, called⟩ := exists_blanks_around_trim before
    have blanks : ∀ c ∈ before.takeWhile isBlank ++ finish ++ [], isBlank c = true := by
      rw [List.append_nil]
      exact List.forall_mem_append.mpr ⟨fun _ => List.mem_takeWhile_imp, blankFinish⟩
    have container : base ∈ containers := by simpa using known
    have written := Spells.of_parts container (splitArgs?_ne_nil split) blanks spelled
    rw [String.toList_ofList, ← called, intercalate_of_splitArgs? split, ← whole] at written
    exact written.of_trim
  | _ => cases read

theorem read?_eq_some_iff : read? text = some type ↔ Spells text type :=
  ⟨spells_of_read?, Spells.read⟩

end Spellings

/-- A text is read as a type exactly if it spells it. The type is well formed then and is read from its own text again,
    as every well-formed type is. -/
theorem ofText?_spells_text :
    (∀ text type, ofText? text = some type ↔ Spells text.toList type) ∧
    (∀ text type, ofText? text = some type → type.WellFormed ∧ ofText? type.text = some type) ∧
    ∀ type : CppType, type.WellFormed → ofText? type.text = some type := by
  refine ⟨fun _ _ => read?_eq_some_iff, fun _ _ read => ?_, fun _ wellFormed => wellFormed.isTextOf.read⟩
  have wellFormed := wellFormed_of_read? read
  exact ⟨wellFormed, wellFormed.isTextOf.read⟩

/-- Blanks within a name, before a bracket and after a star, a pointer inside a template inside a template, and a
    pointer to the whole. -/
theorem ofText?_spells_text_vector :
    let type := (stdVector (optional constCharPointer)).pointer
    ofText? "std::vector < optional<const  char* >>*" = some type ∧ type.WellFormed ∧ ofText? type.text = some type := by
  have name : Spells "const  char".toList (named "const char") := .plain (by decide) (by decide)
  have inner : Spells "const  char* ".toList constCharPointer := name.pointer rfl blank_space
  have inside := @Spells.container "optional" [' '] [] [] [(_, _)] (by decide) (by simp) blank_space
    (List.forall_mem_singleton.mpr inner)
  have vector := @Spells.container "std::vector" [] [' '] [] [(_, _)] (by decide) (by simp) blank_space
    (List.forall_mem_singleton.mpr inside)
  have pointer := vector.pointer rfl (List.forall_mem_nil _)
  have read := (ofText?_spells_text.1 "std::vector < optional<const  char* >>*" _).mpr pointer
  exact ⟨read, ofText?_spells_text.2.1 _ _ read⟩

end DeviceConfig.CppType
