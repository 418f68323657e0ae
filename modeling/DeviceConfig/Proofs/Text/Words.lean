import DeviceConfig.Proofs.Text.Blank

/-!
The words of a text: blanks around it are in none of them (`words_padded`), a run of other characters is one of them
(`words_visible_append`), and joined by spaces they are found again (`words_intercalate_words`).
-/

namespace DeviceConfig.Text

variable {c : Char} {text rest before after : List Char}

theorem words_blank (blank : isBlank c = true) (rest : List Char) : words (c :: rest) = words rest := by
  cases rest with
  | nil => simp [words, blank]
  | cons next more => simp [words, blank]

theorem words_last (visible : isBlank c = false) (stop : ∀ next ∈ rest.head?, isBlank next = true) :
    words (c :: rest) = [c] :: words rest := by
  cases rest with
  | nil => simp [words, visible]
  | cons next more => simp [words, visible, stop next rfl]

theorem words_ne_nil (visible : isBlank c = false) (rest : List Char) : words (c :: rest) ≠ [] := by
  unfold words
  simp only [visible, Bool.false_eq_true, if_false]
  split
  · simp
  · split
    · simp
    · split <;> simp

theorem words_more {next : Char} (visible : isBlank c = false) (more : isBlank next = false) :
    words (c :: next :: rest) = (words (next :: rest)).modifyHead (c :: ·) := by
  rw [words]
  simp only [visible, more, Bool.false_eq_true, if_false]
  cases found : words (next :: rest) with
  | nil => exact absurd found (words_ne_nil more rest)
  | cons word others => rfl

/-- A visible character starts a word of its own or the first word of the rest. -/
theorem words_visible (visible : isBlank c = false) (rest : List Char) : words (c :: rest) = [c] :: words rest ∨
    ∃ word others, words rest = word :: others ∧ words (c :: rest) = (c :: word) :: others := by
  cases rest with
  | nil => exact .inl (words_last visible nofun)
  | cons next more =>
    cases blank : isBlank next with
    | true => exact .inl (words_last visible (by simpa using blank))
    | false =>
      obtain ⟨word, others, found⟩ := List.exists_cons_of_ne_nil (words_ne_nil blank more)
      exact .inr ⟨word, others, found, by rw [words_more visible blank, found, List.modifyHead_cons]⟩

theorem ne_nil_of_mem_words {word : List Char} (member : word ∈ words text) : word ≠ [] := by
  induction text generalizing word with
  | nil => cases member
  | cons c rest ih =>
    cases here : isBlank c with
    | true => exact ih (words_blank here rest ▸ member)
    | false =>
      obtain alone | ⟨first, others, found, joined⟩ := words_visible here rest
      · rw [alone] at member
        rcases List.mem_cons.mp member with rfl | later
        · simp
        · exact ih later
      · rw [joined] at member
        rcases List.mem_cons.mp member with rfl | later
        · simp
        · exact ih (found ▸ List.mem_cons_of_mem _ later)

/-- A character is blank, or it stands in a word. -/
theorem exists_mem_words_iff : (∃ word ∈ words text, c ∈ word) ↔ c ∈ text ∧ isBlank c = false := by
  induction text with
  | nil => simp [words]
  | cons first rest ih =>
    cases here : isBlank first with
    | true =>
      have other : isBlank c = false → c ≠ first := by
        rintro visible rfl
        rw [here] at visible
        cases visible
      rw [words_blank here, ih, List.mem_cons]
      exact ⟨fun ⟨member, visible⟩ => ⟨.inr member, visible⟩,
        fun ⟨member, visible⟩ => ⟨member.resolve_left (other visible), visible⟩⟩
    | false =>
      have either : (∃ word ∈ words (first :: rest), c ∈ word) ↔
          c = first ∨ ∃ word ∈ words rest, c ∈ word := by
        obtain alone | ⟨word, others, found, joined⟩ := words_visible here rest
        · simp [alone]
        · simp [joined, found, or_assoc]
      rw [either, ih, List.mem_cons]
      constructor
      · rintro (rfl | ⟨member, visible⟩)
        · exact ⟨.inl rfl, here⟩
        · exact ⟨.inr member, visible⟩
      · rintro ⟨rfl | member, visible⟩
        · exact .inl rfl
        · exact .inr ⟨member, visible⟩

theorem words_append_blanks (blank : ∀ c ∈ after, isBlank c = true) : words (text ++ after) = words text := by
  induction text with
  | nil =>
    induction after with
    | nil => rfl
    | cons c rest ih =>
      obtain ⟨first, others⟩ := List.forall_mem_cons.mp blank
      rw [List.nil_append, words_blank first]
      exact ih others
  | cons c rest ih =>
    cases here : isBlank c with
    | true => rw [List.cons_append, words_blank here, words_blank here, ih]
    | false =>
      cases rest with
      | nil =>
        have stop : ∀ next ∈ after.head?, isBlank next = true :=
          fun next first => blank next (List.mem_of_mem_head? first)
        rw [List.cons_append, words_last here (by simpa using stop), ih, words_last here (by simp)]
      | cons next more =>
        cases blankNext : isBlank next with
        | true =>
          rw [List.cons_append, words_last here (by simpa using blankNext), ih,
            words_last here (by simpa using blankNext)]
        | false =>
          rw [List.cons_append, List.cons_append, words_more here blankNext, ← List.cons_append, ih,
            words_more here blankNext]

/-- Blanks around a text are in none of its words. -/
theorem words_padded (blank : ∀ c ∈ before, isBlank c = true) (blankAfter : ∀ c ∈ after, isBlank c = true) :
    words (before ++ text ++ after) = words text := by
  rw [words_append_blanks blankAfter]
  induction before with
  | nil => rfl
  | cons c rest ih =>
    obtain ⟨first, others⟩ := List.forall_mem_cons.mp blank
    rw [List.cons_append, words_blank first]
    exact ih others

theorem words_trim (text : List Char) : words (trim text) = words text := by
  obtain ⟨after, blankAfter, whole⟩ := exists_blanks_around_trim text
  conv_rhs => rw [whole]
  exact (words_padded (fun _ => List.mem_takeWhile_imp) blankAfter).symm

/-- A run of visible characters is one word, if what follows it does not go on with it. -/
theorem words_visible_append {word : List Char} (some : word ≠ []) (visible : ∀ c ∈ word, isBlank c = false)
    (stop : ∀ c ∈ rest.head?, isBlank c = true) : words (word ++ rest) = word :: words rest := by
  induction word with
  | nil => exact absurd rfl some
  | cons c more ih =>
    obtain ⟨here, later⟩ := List.forall_mem_cons.mp visible
    cases more with
    | nil => exact words_last here stop
    | cons next others =>
      have further := ih (by simp) later
      rw [List.cons_append, List.cons_append, words_more here (later next (by simp)), ← List.cons_append, further]
      rfl

theorem words_intercalate {parts : List (List Char)}
    (each : ∀ word ∈ parts, word ≠ [] ∧ ∀ c ∈ word, isBlank c = false) :
    words ([' '].intercalate parts) = parts := by
  induction parts with
  | nil => rfl
  | cons word others ih =>
    obtain ⟨⟨some, visible⟩, later⟩ := List.forall_mem_cons.mp each
    cases others with
    | nil =>
      have whole : words (word ++ []) = [word] := words_visible_append some visible (by simp)
      rw [List.intercalate_singleton]
      rwa [List.append_nil] at whole
    | cons next others =>
      have space : ∀ c ∈ (' ' :: [' '].intercalate (next :: others)).head?, isBlank c = true := by rintro c ⟨⟩; rfl
      rw [List.intercalate_cons_cons, List.append_assoc, List.singleton_append, words_visible_append some visible space,
        words_blank rfl, ih later]

/-- Runs of blanks count as one space. -/
theorem words_intercalate_words (text : List Char) : words ([' '].intercalate (words text)) = words text :=
  words_intercalate fun _ member => ⟨ne_nil_of_mem_words member, fun _ inside =>
    (exists_mem_words_iff.mp ⟨_, member, inside⟩).2⟩

end DeviceConfig.Text
