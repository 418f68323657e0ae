import DeviceConfig.Proofs.Lambda.Reading
import DeviceConfig.Proofs.Lists

/-!
What unindenting keeps of the layout of a text. The lines that it drops are blank and stand around those that it
keeps. Each of these loses the blanks at its end and as many bytes of indentation as the others, or all of its
indentation where those bytes would end inside a blank (`unindent_keeps_lines`).
-/

namespace DeviceConfig.Lambda

open Text

def IsBlankLine (line : List Char) : Prop := ∀ c ∈ line, isBlank c = true

/-- The first `width` bytes of a text end inside one of its characters. -/
def EndsInside (width : Nat) (text : List Char) : Prop :=
  ∃ before c after, text = before ++ c :: after ∧ byteLength before < width ∧ width < byteLength before + c.utf8Size

/-- What is left of a line that was written, when the blanks at its end and `width` bytes of indentation are gone. -/
structure IsOutdented (width : Nat) (written line : List Char) : Prop where
  visible : trim line = trim written
  ended : ∀ c ∈ line.getLast?, isBlank c = false
  /-- All of the indentation goes where the bytes would end inside a blank. -/
  start : ¬IsBlankLine line →
    indentation written = width + indentation line ∨
      indentation line = 0 ∧ EndsInside width (written.takeWhile isBlank)

section Line

variable {width : Nat} {written line blanks : List Char}

theorem isBlankLine_iff_trimEnd : IsBlankLine line ↔ trimEnd line = [] := List.rdropWhile_eq_nil_iff.symm

theorem isBlankLine_congr (same : trim line = trim written) : IsBlankLine line ↔ IsBlankLine written := by
  have blank (text : List Char) : IsBlankLine text ↔ trim text = [] := by
    rw [IsBlankLine, ← List.all_eq_true, ← trim_isEmpty, List.isEmpty_iff]
  rw [blank, blank, same]

theorem indentation_blanks_append (blank : ∀ c ∈ blanks, isBlank c = true) (line : List Char) :
    indentation (blanks ++ line) = byteLength blanks + indentation line := by
  rw [indentation, List.takeWhile_append_of_pos blank, byteLength_append, indentation]

/-- Blanks after a line are not indentation, unless nothing stands before them. -/
theorem takeWhile_append_of_visible (visible : ¬IsBlankLine line) (rest : List Char) :
    (line ++ rest).takeWhile isBlank = line.takeWhile isBlank := by
  induction line with
  | nil => exact absurd nofun visible
  | cons c line ih =>
    rw [List.cons_append, List.takeWhile_cons, List.takeWhile_cons]
    split
    · rename_i blank
      rw [ih fun all => visible (List.forall_mem_cons.mpr ⟨blank, all⟩)]
    · rfl

theorem endsInside_of_dropBytes? (stops : dropBytes? width line = none) (few : width ≤ indentation line) :
    EndsInside width (line.takeWhile isBlank) := by
  induction line generalizing width with
  | nil =>
    obtain rfl : width = 0 := Nat.le_zero.mp few
    rw [dropBytes?_zero] at stops
    cases stops
  | cons c line ih =>
    cases width with
    | zero =>
      rw [dropBytes?_zero] at stops
      cases stops
    | succ bytes =>
      rw [dropBytes?] at stops
      rw [indentation_cons] at few
      split at few
      · rename_i blank
        rw [List.takeWhile_cons_of_pos blank]
        split at stops
        · obtain ⟨before, d, after, whole, starts, ends⟩ := ih stops (by omega)
          exact ⟨c :: before, d, after, by rw [whole]; rfl, by rw [byteLength_cons]; omega,
            by rw [byteLength_cons]; omega⟩
        · exact ⟨[], c, line.takeWhile isBlank, rfl, by rw [byteLength_nil]; omega, by rw [byteLength_nil]; omega⟩
      · omega

theorem indentation_shift (few : width ≤ indentation line) :
    indentation line = width + indentation (shift width line) ∨
      indentation (shift width line) = 0 ∧ EndsInside width (line.takeWhile isBlank) := by
  rw [shift]
  cases dropped : dropBytes? width line with
  | none => exact .inr ⟨indentation_of_head head_trimStart, endsInside_of_dropBytes? dropped few⟩
  | some rest =>
    obtain ⟨blanks, rfl, blank, length⟩ := exists_blanks_of_dropBytes? dropped few
    exact .inl (by rw [indentation_blanks_append blank, length, Option.getD_some])

end Line

section Lines

variable {text line blanks : List Char}

theorem isOutdented_shift (member : line ∈ content text) (blank : ∀ c ∈ blanks, isBlank c = true) :
    IsOutdented (commonIndentation (content text)) (line ++ blanks)
      (shift (commonIndentation (content text)) line) := by
  obtain ⟨start, whole, blankStart⟩ := exists_blanks_of_shift fun some => commonIndentation_le member some
  refine ⟨?_, (trimmedLine_shift member).1.last, fun visible => ?_⟩
  · conv_rhs => rw [whole]
    exact (trim_padded blankStart blank).symm
  · have shown : ¬IsBlankLine line := by
      intro all
      rw [whole] at all
      exact visible fun c inside => all c (List.mem_append_right _ inside)
    have some : line ≠ [] := by
      rintro rfl
      exact shown nofun
    rw [indentation, takeWhile_append_of_visible shown]
    exact indentation_shift (commonIndentation_le member some)

/-- The lines that unindenting keeps, as they were written. -/
theorem exists_kept_lines (text : List Char) : ∃ before kept after, lines text = before ++ kept ++ after ∧
    (∀ line ∈ before ++ after, IsBlankLine line) ∧ kept.map trimEnd = content text := by
  obtain ⟨start, finish, empty, emptyFinish, whole⟩ := exists_empty_around_contentLines ((lines text).map trimEnd)
  obtain ⟨rest, after, split, restTrimmed, afterTrimmed⟩ := List.map_eq_append_iff.mp whole
  obtain ⟨before, kept, rfl, beforeTrimmed, keptTrimmed⟩ := List.map_eq_append_iff.mp restTrimmed
  refine ⟨before, kept, after, split, fun line member => isBlankLine_iff_trimEnd.mpr ?_, keptTrimmed⟩
  rcases List.mem_append.mp member with inBefore | inAfter
  · exact empty _ (beforeTrimmed ▸ List.mem_map_of_mem inBefore)
  · exact emptyFinish _ (afterTrimmed ▸ List.mem_map_of_mem inAfter)

theorem isOutdented_kept {kept : List (List Char)} (trimmed : kept.map trimEnd = content text) :
    List.Forall₂ (IsOutdented (commonIndentation (content text))) kept (lines (unindent text)) := by
  have changed (width : Nat) : (content text).map (shift width) = kept.map (shift width ∘ trimEnd) := by
    rw [← trimmed, List.map_map]
  rw [lines_unindent, shifted, changed, List.forall₂_map_right_iff, List.forall₂_same]
  intro written member
  obtain ⟨blanks, whole, blank⟩ := exists_blanks_trimEnd written
  have outdented := isOutdented_shift (trimmed ▸ List.mem_map_of_mem member) blank
  rwa [← whole] at outdented

theorem IsTrimmedLine.not_isBlankLine (trimmed : IsTrimmedLine line) (some : line ≠ []) : ¬IsBlankLine line := by
  intro blank
  rw [isBlankLine_iff_trimEnd, trimEnd_of_last trimmed.last] at blank
  exact some blank

theorem exists_line_without_indentation (some : content text ≠ []) :
    ∃ line ∈ lines (unindent text), ¬IsBlankLine line ∧ indentation line = 0 := by
  obtain ⟨first, rest, whole⟩ := List.exists_cons_of_ne_nil (mt List.map_eq_nil_iff.mp some)
  have visible : first ≠ [] := head_shifted first (by rw [shifted, whole]; rfl)
  have member : first ∈ shifted text := by
    rw [shifted, whole]
    exact List.mem_cons_self
  obtain ⟨least, inShifted, nonempty, same⟩ := exists_commonIndentation member visible
  rw [commonIndentation_shifted some] at same
  rw [lines_unindent]
  exact ⟨least, inShifted, (trimmedLine_of_mem_shifted inShifted).not_isBlankLine nonempty, same⟩

end Lines

/-- Unindenting keeps the lines from the first to the last that is not blank, and changes nothing a second time. Some
    line that is not blank has no indentation left if there is any, and the text is in balance exactly if it was. -/
theorem unindent_keeps_lines (text : List Char) :
    unindent (unindent text) = unindent text ∧
    (∃ width before kept after, lines text = before ++ kept ++ after ∧
      (∀ line ∈ before ++ after, IsBlankLine line) ∧
      (∀ line ∈ kept.head?, ¬IsBlankLine line) ∧ (∀ line ∈ kept.getLast?, ¬IsBlankLine line) ∧
      List.Forall₂ (IsOutdented width) kept (lines (unindent text))) ∧
    ((∃ line ∈ lines (unindent text), ¬IsBlankLine line ∧ indentation line = 0) ↔
      ∃ line ∈ lines text, ¬IsBlankLine line) ∧
    ∀ offset other, requireBalance ⟨offset, unindent text⟩ = .ok () ↔ requireBalance ⟨other, text⟩ = .ok () := by
  obtain ⟨before, kept, after, split, blank, trimmed⟩ := exists_kept_lines text
  have outdented := isOutdented_kept trimmed
  refine ⟨unindent_unindent text, ⟨_, before, kept, after, split, blank, ?_, ?_, outdented⟩, ⟨?_, ?_⟩, ?_⟩
  · intro line first
    have starts : trimEnd line ∈ (content text).head? := by
      rw [← trimmed, List.head?_map, first]
      rfl
    exact isBlankLine_iff_trimEnd.not.mpr (head_contentLines _ starts)
  · intro line last
    have ends : trimEnd line ∈ (content text).getLast? := by
      rw [← trimmed, List.getLast?_map, last]
      rfl
    exact isBlankLine_iff_trimEnd.not.mpr (last_contentLines _ ends)
  · rintro ⟨line, member, visible, -⟩
    obtain ⟨written, inKept, left⟩ := exists_mem_left_of_forall₂ outdented member
    refine ⟨written, ?_, (isBlankLine_congr left.visible).not.mp visible⟩
    rw [split]
    exact List.mem_append_left _ (List.mem_append_right _ inKept)
  · rintro ⟨written, member, visible⟩
    refine exists_line_without_indentation fun none => visible ?_
    -- no line is kept, so all of them are around
    rw [none, List.map_eq_nil_iff] at trimmed
    rw [split, trimmed, List.append_nil] at member
    exact blank written member
  · intro offset other
    rw [requireBalance_eq_ok_iff, requireBalance_eq_ok_iff]
    exact isBalanced_unindent_iff

/-- The ideographic space has three bytes, so the last line cannot lose just two. -/
example : unindent "\n  if (a)\n    b;\n\n\u3000c;  \n".toList = "if (a)\n  b;\n\nc;".toList := by cbv

end DeviceConfig.Lambda
