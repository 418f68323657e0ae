import DeviceConfig.Text.Blank
import DeviceConfig.Text.Case
import Mathlib.Data.List.Basic
import Mathlib.Data.List.TakeWhile

/-!
Trimming: a text that neither starts nor ends with a blank stays as it is, and what trimming leaves is
such a text, in any case of its letters (`trim_of_equalIgnoringAsciiCase`). What it takes away are blanks
(`exists_blanks_around_trim`).
-/

namespace DeviceConfig.Text

variable {text : List Char}

/-- The text neither starts nor ends with a blank. -/
def IsTrimmed (text : List Char) : Prop :=
  (∀ c ∈ text.head?, isBlank c = false) ∧ ∀ c ∈ text.getLast?, isBlank c = false

theorem ne_of_test {test : Char → Bool} {c other : Char} (passes : test c = true) (fails : test other = false) :
    c ≠ other := by
  rintro rfl
  rw [passes] at fails
  cases fails

theorem trimStart_of_head (head : ∀ c ∈ text.head?, isBlank c = false) : trimStart text = text := by
  cases text with
  | nil => rfl
  | cons c rest =>
    have visible := head c rfl
    rw [trimStart, List.dropWhile_cons, visible]
    rfl

theorem trimEnd_of_last (last : ∀ c ∈ text.getLast?, isBlank c = false) : trimEnd text = text := by
  have reversed : trimStart text.reverse = text.reverse := by
    refine trimStart_of_head fun c first => last c ?_
    rwa [List.head?_reverse] at first
  rw [trimStart] at reversed
  rw [trimEnd, reversed, List.reverse_reverse]

theorem head_trimStart : ∀ c ∈ (trimStart text).head?, isBlank c = false := by
  induction text with
  | nil => intro c member; cases member
  | cons first rest ih =>
    intro c member
    rw [trimStart, List.dropWhile_cons] at member
    cases blank : isBlank first with
    | true =>
      rw [blank] at member
      exact ih c member
    | false =>
      rw [blank] at member
      cases member
      exact blank

theorem last_trimEnd : ∀ c ∈ (trimEnd text).getLast?, isBlank c = false := by
  intro c member
  rw [trimEnd, List.getLast?_reverse] at member
  exact head_trimStart c member

theorem exists_blanks_trimEnd (text : List Char) :
    ∃ blanks, text = trimEnd text ++ blanks ∧ ∀ c ∈ blanks, isBlank c = true := by
  refine ⟨(text.reverse.takeWhile isBlank).reverse, ?_, fun c member => ?_⟩
  · rw [trimEnd, ← List.reverse_append, List.takeWhile_append_dropWhile, List.reverse_reverse]
  · exact List.mem_takeWhile_imp (List.mem_reverse.mp member)

theorem trimEnd_isPrefix : trimEnd text <+: text := by
  obtain ⟨blanks, whole, -⟩ := exists_blanks_trimEnd text
  exact ⟨blanks, whole.symm⟩

theorem IsTrimmed.trim_eq (trimmed : IsTrimmed text) : trim text = text := by
  rw [trim, trimStart_of_head trimmed.1, trimEnd_of_last trimmed.2]

/-- Only the blanks around a trimmed text are trimmed away. -/
theorem IsTrimmed.trim_padded {before after : List Char} (trimmed : IsTrimmed text)
    (blank : ∀ c ∈ before, isBlank c = true) (blankAfter : ∀ c ∈ after, isBlank c = true) :
    trim (before ++ text ++ after) = text := by
  have start : trimStart (before ++ text ++ after) = trimStart (text ++ after) := by
    rw [trimStart, List.append_assoc, List.dropWhile_append_of_pos blank, ← trimStart]
  have finish : trimEnd (text ++ after) = trimEnd text := by
    have reversed : ∀ c ∈ after.reverse, isBlank c = true := fun c member => blankAfter c (List.mem_reverse.mp member)
    rw [trimEnd, List.reverse_append, List.dropWhile_append_of_pos reversed, ← trimEnd]
  rw [trim, start]
  cases text with
  | nil =>
    have none : trimStart after = [] := by
      have dropped : (after ++ []).dropWhile isBlank = [] := List.dropWhile_append_of_pos blankAfter
      rwa [List.append_nil] at dropped
    rw [List.nil_append, none]
    rfl
  | cons c rest =>
    have kept : trimStart (c :: rest ++ after) = c :: rest ++ after := trimStart_of_head trimmed.1
    rw [kept, finish, trimEnd_of_last trimmed.2]

theorem blank_space : ∀ c ∈ [' '], isBlank c = true := List.all_eq_true.mp rfl

theorem isBlank_feed : isBlank '\n' = true := rfl

theorem blank_feed : ∀ c ∈ ['\n'], isBlank c = true := List.all_eq_true.mp rfl

theorem IsTrimmed.trim_space (trimmed : IsTrimmed text) : trim ([' '] ++ text) = text := by
  have padded : trim ([' '] ++ text ++ []) = text := trimmed.trim_padded blank_space (by simp)
  rwa [List.append_nil] at padded

theorem IsTrimmed.not_all_blank (trimmed : IsTrimmed text) (some : text ≠ []) : text.all isBlank = false := by
  obtain ⟨c, rest, rfl⟩ := List.exists_cons_of_ne_nil some
  rw [List.all_cons, trimmed.1 c rfl, Bool.false_and]

/-- Whatever stands between two trimmed texts, the whole is trimmed. -/
theorem IsTrimmed.around {first last : List Char} (starts : IsTrimmed first) (ends : IsTrimmed last)
    (visible : first ≠ []) (visibleEnd : last ≠ []) (between : List Char) : IsTrimmed (first ++ between ++ last) := by
  constructor
  · rw [List.append_assoc, List.head?_append_of_ne_nil _ visible]
    exact starts.1
  · rw [List.getLast?_append_of_ne_nil _ visibleEnd]
    exact ends.2

theorem isTrimmed_trim (text : List Char) : IsTrimmed (trim text) := by
  refine ⟨fun c first => ?_, last_trimEnd⟩
  have trimmed : trimEnd (trimStart text) <+: trimStart text := trimEnd_isPrefix
  obtain ⟨rest, whole⟩ := trimmed
  have start : ∀ c ∈ (trimStart text).head?, isBlank c = false := head_trimStart
  refine start c ?_
  rw [trim] at first
  rw [← whole, List.head?_append, first]
  rfl

/-- Only blanks are trimmed away. -/
theorem exists_blanks_around_trim (text : List Char) :
    ∃ after, (∀ c ∈ after, isBlank c = true) ∧ text = text.takeWhile isBlank ++ trim text ++ after := by
  obtain ⟨after, whole, blank⟩ := exists_blanks_trimEnd (trimStart text)
  refine ⟨after, blank, ?_⟩
  rw [List.append_assoc, trim, ← whole, trimStart, List.takeWhile_append_dropWhile]

theorem trim_padded {before after : List Char} (blank : ∀ c ∈ before, isBlank c = true)
    (blankAfter : ∀ c ∈ after, isBlank c = true) : trim (before ++ text ++ after) = trim text := by
  obtain ⟨finish, blankFinish, whole⟩ := exists_blanks_around_trim text
  have blankStart : ∀ c ∈ text.takeWhile isBlank, isBlank c = true := fun _ => List.mem_takeWhile_imp
  have padded : before ++ text ++ after = (before ++ text.takeWhile isBlank) ++ trim text ++ (finish ++ after) := by
    conv_lhs => rw [whole]
    simp only [List.append_assoc]
  rw [padded]
  exact (isTrimmed_trim text).trim_padded (List.forall_mem_append.mpr ⟨blank, blankStart⟩)
    (List.forall_mem_append.mpr ⟨blankFinish, blankAfter⟩)

theorem trim_isEmpty (text : List Char) : (trim text).isEmpty = text.all isBlank := by
  obtain ⟨after, blankAfter, whole⟩ := exists_blanks_around_trim text
  have blank : ∀ c ∈ text.takeWhile isBlank, isBlank c = true := fun _ => List.mem_takeWhile_imp
  rw [Bool.eq_iff_iff, List.isEmpty_iff, List.all_eq_true]
  constructor
  · intro none
    rw [none, List.append_nil] at whole
    rw [whole]
    exact List.forall_mem_append.mpr ⟨blank, blankAfter⟩
  · intro all
    have padded : trim (text ++ [] ++ []) = trim [] := trim_padded all nofun
    rw [List.append_nil, List.append_nil] at padded
    rw [padded]
    rfl

theorem foldl_utf8Size (text : List Char) (start : Nat) :
    text.foldl (fun sum c => sum + c.utf8Size) start = start + byteLength text := by
  induction text generalizing start with
  | nil => rfl
  | cons c rest ih =>
    rw [byteLength, List.foldl_cons, List.foldl_cons, ih, ih]
    omega

@[simp] theorem byteLength_nil : byteLength [] = 0 := rfl

@[simp] theorem byteLength_cons (c : Char) (rest : List Char) :
    byteLength (c :: rest) = c.utf8Size + byteLength rest := by
  rw [byteLength, List.foldl_cons, foldl_utf8Size, Nat.zero_add]

@[simp] theorem byteLength_append (text rest : List Char) :
    byteLength (text ++ rest) = byteLength text + byteLength rest := by
  induction text with
  | nil => simp
  | cons c text ih => simp only [List.cons_append, byteLength_cons, ih, Nat.add_assoc]

theorem isBlank_of_visible {c : Char} (low : 33 ≤ c.toNat) (high : c.toNat ≤ 126) :
    isBlank c = false := by
  simp only [isBlank, Bool.or_eq_false_iff, Bool.and_eq_false_iff, decide_eq_false_iff_not,
    beq_eq_false_iff_ne]
  omega

theorem isBlank_toLower (c : Char) : isBlank c.toLower = isBlank c := by
  unfold Char.toLower
  split
  · rename_i upper
    have low : 65 ≤ c.val.toNat := UInt32.le_iff_toNat_le.mp upper.1
    have high : c.val.toNat ≤ 90 := UInt32.le_iff_toNat_le.mp upper.2
    have step : ('a'.val - 'A'.val).toNat = 32 := rfl
    have lowered : (c.val + ('a'.val - 'A'.val)).toNat = c.val.toNat + 32 := by
      rw [UInt32.toNat_add, step]
      omega
    have visible : isBlank c = false := isBlank_of_visible (Nat.le_trans (by decide) low) (by rw [Char.toNat]; omega)
    rw [visible]
    exact isBlank_of_visible (by rw [Char.toNat, lowered]; omega) (by rw [Char.toNat, lowered]; omega)
  · rfl

theorem isTrimmed_map_toLower : IsTrimmed (text.map Char.toLower) ↔ IsTrimmed text := by
  simp only [IsTrimmed, List.head?_map, List.getLast?_map, Option.mem_def,
    Option.map_eq_some_iff, forall_exists_index, and_imp, forall_apply_eq_imp_iff₂, isBlank_toLower]

theorem trim_of_equalIgnoringAsciiCase {a b : String} (same : equalIgnoringAsciiCase a b = true)
    (trimmed : IsTrimmed b.toList) : trim a.toList = a.toList := by
  have lowered : a.toList.map Char.toLower = b.toList.map Char.toLower := eq_of_beq same
  have other : IsTrimmed a.toList := by
    rw [← isTrimmed_map_toLower, lowered, isTrimmed_map_toLower]
    exact trimmed
  exact other.trim_eq

end DeviceConfig.Text
