import DeviceConfig.Proofs.Lambda.Scanning
import DeviceConfig.Proofs.Text.Lines
import Mathlib.Data.List.DropRight

/-!
Unindenting changes blanks at the ends of lines and blank lines around the text, and no scan of code can tell:
the brackets that count are the same, and the scan ends in the same place (`sameCode_unindent`). A text that was
unindented stays as it is (`unindent_unindent`).
-/

namespace DeviceConfig.Lambda

open Text

/-- Where the scan can stand when a line begins. -/
def Mode.BeginsLine (mode : Mode) : Prop := mode.IsProper ∧ (mode = .code ∨ ∃ quote, mode = .literal quote)

theorem beginsLine_code : Mode.code.BeginsLine := ⟨True.intro, .inl rfl⟩

section Blanks

variable {c : Char} {mode : Mode} {blanks : List Char}

theorem not_isBracket_of_blank (blank : isBlank c = true) : isBracket mode c = false := by
  have visible (mark : Char) (shown : isBlank mark = false) : c ≠ mark := ne_of_test blank shown
  simp [isBracket, isOpening, isClosing, visible '(' rfl, visible '[' rfl, visible '\x7b' rfl, visible ')' rfl,
    visible ']' rfl, visible '\x7d' rfl]

theorem afterCode_of_blank (blank : isBlank c = true) : Mode.afterCode c = .code := by
  have visible (mark : Char) (shown : isBlank mark = false) : c ≠ mark := ne_of_test blank shown
  simp [Mode.afterCode, visible '"' rfl, visible '\'' rfl, visible '/' rfl]

theorem next_of_blank_literal {quote : Char} (blank : isBlank c = true)
    (proper : (Mode.literal quote).IsProper) : (Mode.literal quote).next c = .literal quote := by
  have escape : c ≠ '\\' := ne_of_test blank (by decide)
  have other : c ≠ quote := by
    rcases proper with rfl | rfl
    · exact ne_of_test blank (by decide)
    · exact ne_of_test blank (by decide)
  simp [Mode.next, escape, other]

theorem next_of_blank (blank : isBlank c = true) (begins : mode.BeginsLine) : mode.next c = mode := by
  obtain ⟨proper, rfl | ⟨quote, rfl⟩⟩ := begins
  · exact afterCode_of_blank blank
  · exact next_of_blank_literal blank proper

theorem Mode.IsProper.beginsLine (proper : mode.IsProper) : (mode.next '\n').BeginsLine := by
  refine ⟨proper.next '\n', ?_⟩
  cases mode with
  | code => exact .inl (afterCode_of_blank isBlank_feed)
  | slash => exact .inl (afterCode_of_blank isBlank_feed)
  | literal quote => exact .inr ⟨quote, next_of_blank_literal isBlank_feed proper⟩
  | escape quote => exact .inr ⟨quote, rfl⟩
  | comment => exact .inl rfl

theorem feed_of_blank (blank : isBlank c = true) (proper : mode.IsProper) :
    (mode.next c).next '\n' = mode.next '\n' := by
  cases mode with
  | code => rw [next_of_blank blank beginsLine_code]
  | slash =>
    have other : c ≠ '/' := ne_of_test blank (by decide)
    have here : Mode.slash.next c = .code := by simp [Mode.next, other, afterCode_of_blank blank]
    rw [here]
    exact (afterCode_of_blank isBlank_feed).trans (afterCode_of_blank isBlank_feed).symm
  | literal quote => rw [next_of_blank_literal blank proper]
  | escape quote => exact next_of_blank_literal isBlank_feed proper
  | comment =>
    -- the blank can itself be the line feed that ends the comment
    by_cases isFeed : c = '\n'
    · subst isFeed
      exact afterCode_of_blank isBlank_feed
    · have here : Mode.comment.next c = .comment := by simp [Mode.next, isFeed]
      rw [here]

theorem bracketChars_blanks (blank : ∀ c ∈ blanks, isBlank c = true) : bracketChars mode blanks = [] := by
  induction blanks generalizing mode with
  | nil => rfl
  | cons c rest ih =>
    rw [bracketChars_cons, not_isBracket_of_blank (blank c List.mem_cons_self)]
    exact ih fun d member => blank d (List.mem_cons_of_mem _ member)

theorem after_blanks (blank : ∀ c ∈ blanks, isBlank c = true) (begins : mode.BeginsLine) :
    mode.after blanks = mode := by
  induction blanks with
  | nil => rfl
  | cons c rest ih =>
    rw [Mode.after_cons, next_of_blank (blank c List.mem_cons_self) begins]
    exact ih fun d member => blank d (List.mem_cons_of_mem _ member)

theorem feed_of_blanks (blank : ∀ c ∈ blanks, isBlank c = true) (proper : mode.IsProper) :
    (mode.after blanks).next '\n' = mode.next '\n' := by
  induction blanks generalizing mode with
  | nil => rfl
  | cons c rest ih =>
    rw [Mode.after_cons, ih (fun d member => blank d (List.mem_cons_of_mem _ member)) (proper.next c)]
    exact feed_of_blank (blank c List.mem_cons_self) proper

end Blanks

theorem exists_empty_around_contentLines (lines : List (List Char)) : ∃ before after,
    (∀ line ∈ before, line = []) ∧ (∀ line ∈ after, line = []) ∧ lines = before ++ contentLines lines ++ after := by
  have start : lines.takeWhile List.isEmpty ++ lines.dropWhile List.isEmpty = lines := List.takeWhile_append_dropWhile
  have finish : contentLines lines ++ (lines.dropWhile List.isEmpty).rtakeWhile List.isEmpty =
      lines.dropWhile List.isEmpty := List.rdropWhile_append_rtakeWhile
  refine ⟨lines.takeWhile List.isEmpty, (lines.dropWhile List.isEmpty).rtakeWhile List.isEmpty, ?_, ?_, ?_⟩
  · exact fun line member => List.isEmpty_iff.mp (List.mem_takeWhile_imp member)
  · exact fun line member => List.isEmpty_iff.mp (List.mem_rtakeWhile_imp member)
  · rw [List.append_assoc, finish, start]

/-- Two texts that leave a scan from the beginning of a line at the beginning of another, and that it cannot tell
    apart. -/
def SameCode (text other : List Char) : Prop :=
  ∀ mode : Mode, mode.BeginsLine →
    bracketChars mode text = bracketChars mode other ∧ mode.after text = mode.after other ∧
      (mode.after text).BeginsLine

namespace SameCode

variable {a b c d : List Char}

theorem trans (first : SameCode a b) (second : SameCode b c) : SameCode a c := by
  intro mode begins
  obtain ⟨brackets, after, later⟩ := first mode begins
  obtain ⟨moreBrackets, moreAfter, -⟩ := second mode begins
  exact ⟨brackets.trans moreBrackets, after.trans moreAfter, later⟩

theorem symm (same : SameCode a b) : SameCode b a := by
  intro mode begins
  obtain ⟨brackets, after, later⟩ := same mode begins
  exact ⟨brackets.symm, after.symm, after ▸ later⟩

theorem append (first : SameCode a b) (second : SameCode c d) : SameCode (a ++ c) (b ++ d) := by
  intro mode begins
  obtain ⟨brackets, after, between⟩ := first mode begins
  obtain ⟨moreBrackets, moreAfter, later⟩ := second _ between
  rw [bracketChars_append, bracketChars_append, Mode.after_append, Mode.after_append, ← brackets, ← after]
  exact ⟨by rw [moreBrackets], moreAfter, later⟩

theorem nil : SameCode [] [] := fun _ begins => ⟨rfl, rfl, begins⟩

theorem feedLines {ls : List (List Char)} {change : List Char → List Char}
    (each : ∀ line ∈ ls, SameCode (change line ++ ['\n']) (line ++ ['\n'])) :
    SameCode (feed (ls.map change)) (feed ls) := by
  induction ls with
  | nil => exact nil
  | cons line rest ih =>
    rw [List.map_cons, feed_cons, feed_cons]
    exact (each line List.mem_cons_self).append (ih fun other member => each other (List.mem_cons_of_mem _ member))

theorem lineEnd {line blanks : List Char} (blank : ∀ c ∈ blanks, isBlank c = true) :
    SameCode (line ++ ['\n']) (line ++ blanks ++ ['\n']) := by
  intro mode begins
  have proper := begins.1.after line
  have after : mode.after (line ++ blanks ++ ['\n']) = (mode.after line).next '\n' := by
    rw [Mode.after_append, Mode.after_append]
    exact feed_of_blanks blank proper
  refine ⟨?_, ?_, ?_⟩
  · simp only [bracketChars_append, bracketChars_blanks blank, bracketChars_blanks blank_feed, List.append_nil]
  · rw [after, Mode.after_append]
    rfl
  · rw [Mode.after_append]
    exact proper.beginsLine

theorem lineStart {line blanks : List Char} (blank : ∀ c ∈ blanks, isBlank c = true) :
    SameCode (line ++ ['\n']) (blanks ++ line ++ ['\n']) := by
  intro mode begins
  refine ⟨?_, ?_, ?_⟩
  · rw [List.append_assoc, bracketChars_append mode blanks, bracketChars_blanks blank, after_blanks blank begins]
    rfl
  · rw [List.append_assoc, Mode.after_append mode blanks, after_blanks blank begins]
  · rw [Mode.after_append]
    exact (begins.1.after line).beginsLine

theorem refl_line (line : List Char) : SameCode (line ++ ['\n']) (line ++ ['\n']) := by
  have seen := @lineEnd line [] fun c member => nomatch member
  rwa [List.append_nil] at seen

theorem emptyLines {ls : List (List Char)} (empty : ∀ line ∈ ls, line = []) : SameCode [] (feed ls) := by
  induction ls with
  | nil => exact nil
  | cons line rest ih =>
    obtain rfl := empty line List.mem_cons_self
    have one : SameCode [] ['\n'] := fun mode begins =>
      ⟨(bracketChars_blanks blank_feed).symm, (after_blanks blank_feed begins).symm, begins⟩
    exact one.append (ih fun other member => empty other (List.mem_cons_of_mem _ member))

theorem refl_feed (ls : List (List Char)) : SameCode (feed ls) (feed ls) := by
  have each := @feedLines ls id fun line _ => refl_line line
  rwa [List.map_id] at each

theorem content (ls : List (List Char)) : SameCode (feed (contentLines ls)) (feed ls) := by
  obtain ⟨before, after, empty, emptyAfter, whole⟩ := exists_empty_around_contentLines ls
  have together := (emptyLines empty).append ((refl_feed (contentLines ls)).append (emptyLines emptyAfter))
  rw [List.append_assoc] at whole
  rwa [← feed_append, ← feed_append, ← whole, List.append_nil, List.nil_append] at together

theorem trimEnd (line : List Char) : SameCode (Text.trimEnd line ++ ['\n']) (line ++ ['\n']) := by
  obtain ⟨blanks, whole, blank⟩ := exists_blanks_trimEnd line
  have seen := @lineEnd (Text.trimEnd line) blanks blank
  rwa [← whole] at seen

theorem withoutReturn (line : List Char) : SameCode (Text.withoutReturn line ++ ['\n']) (line ++ ['\n']) := by
  rw [Text.withoutReturn]
  split
  · rename_i ended
    have whole : line.dropLast ++ ['\r'] = line := List.dropLast_append_getLast? _ (by simpa using ended)
    have blank : ∀ c ∈ ['\r'], isBlank c = true := List.all_eq_true.mp rfl
    have seen := @lineEnd line.dropLast _ blank
    rwa [whole] at seen
  · exact refl_line line

theorem lines (text : List Char) : SameCode (feed (Text.lines text)) (text ++ ['\n']) := by
  rw [lines_eq, ← feed_splitOn, feed_append]
  rcases List.eq_nil_or_concat' (text.splitOn '\n') with none | ⟨before, last, pieces⟩
  · exact absurd none (List.splitOn_ne_nil '\n' text)
  · -- the last piece is no line if it is empty, but an empty line is not seen either
    have final : SameCode (feed (lastLine (before ++ [last]))) (feed [last]) := by
      rw [lastLine, List.getLast?_concat]
      cases last with
      | nil => exact emptyLines (by decide)
      | cons c rest => exact refl_feed _
    rw [pieces, List.dropLast_concat, feed_append]
    exact (feedLines fun line _ => withoutReturn line).append final

end SameCode

/-- A line without its first bytes, or without all its indentation if the cut would go through a character. -/
def shift (bytes : Nat) (line : List Char) : List Char := (dropBytes? bytes line).getD (trimStart line)

/-- The lines that unindenting keeps, without the blanks at their ends. -/
def content (text : List Char) : List (List Char) := contentLines ((Text.lines text).map Text.trimEnd)

theorem unindent_eq (text : List Char) :
    unindent text = ['\n'].intercalate ((content text).map (shift (commonIndentation (content text)))) := rfl

theorem indentation_cons (c : Char) (rest : List Char) :
    indentation (c :: rest) = if isBlank c then c.utf8Size + indentation rest else 0 := by
  rw [indentation, List.takeWhile_cons]
  split
  · rw [byteLength_cons, indentation]
  · rfl

theorem indentation_add_trimStart (line : List Char) :
    indentation line + byteLength (trimStart line) = byteLength line := by
  rw [indentation, ← byteLength_append, trimStart, List.takeWhile_append_dropWhile]

theorem dropBytes?_zero (line : List Char) : dropBytes? 0 line = some line := by rw [dropBytes?]

theorem indentation_of_head {line : List Char} (first : ∀ c ∈ line.head?, isBlank c = false) :
    indentation line = 0 := by
  cases line with
  | nil => rfl
  | cons c rest => rw [indentation_cons, first c rfl, if_neg (by decide)]

theorem exists_blanks_of_dropBytes? {bytes : Nat} {line rest : List Char} (dropped : dropBytes? bytes line = some rest)
    (few : bytes ≤ indentation line) :
    ∃ blanks, line = blanks ++ rest ∧ (∀ c ∈ blanks, isBlank c = true) ∧ byteLength blanks = bytes := by
  induction line generalizing bytes with
  | nil =>
    obtain rfl : bytes = 0 := Nat.le_zero.mp few
    rw [dropBytes?_zero] at dropped
    cases dropped
    exact ⟨[], rfl, nofun, rfl⟩
  | cons c line ih =>
    cases bytes with
    | zero =>
      rw [dropBytes?_zero] at dropped
      cases dropped
      exact ⟨[], rfl, nofun, rfl⟩
    | succ bytes =>
      rw [indentation_cons] at few
      split at few
      · rename_i blank
        rw [dropBytes?] at dropped
        split at dropped
        · obtain ⟨blanks, rfl, each, length⟩ := ih dropped (by omega)
          exact ⟨c :: blanks, rfl, List.forall_mem_cons.mpr ⟨blank, each⟩, by rw [byteLength_cons]; omega⟩
        · cases dropped
      · omega

theorem dropBytes?_indentation (line : List Char) : dropBytes? (indentation line) line = some (trimStart line) := by
  induction line with
  | nil => exact dropBytes?_zero []
  | cons c rest ih =>
    rw [indentation_cons, trimStart, List.dropWhile_cons]
    split
    · have positive : 0 < c.utf8Size := c.utf8Size_pos
      obtain ⟨bytes, same⟩ := Nat.exists_eq_add_of_lt (Nat.add_pos_left positive (indentation rest))
      rw [Nat.zero_add] at same
      rw [same, dropBytes?, if_pos (by omega), ← same, Nat.add_sub_cancel_left, ih]
      rfl
    · exact dropBytes?_zero _

theorem exists_blanks_of_shift {bytes : Nat} {line : List Char} (few : line ≠ [] → bytes ≤ indentation line) :
    ∃ blanks, line = blanks ++ shift bytes line ∧ ∀ c ∈ blanks, isBlank c = true := by
  rw [shift]
  cases dropped : dropBytes? bytes line with
  | none =>
    -- the cut would go through a character, and all of the indentation goes
    exact ⟨line.takeWhile isBlank, List.takeWhile_append_dropWhile.symm, fun c member => List.mem_takeWhile_imp member⟩
  | some rest =>
    rcases List.eq_nil_or_concat line with rfl | ⟨start, last, rfl⟩
    · cases bytes with
      | zero =>
        rw [dropBytes?_zero] at dropped
        cases dropped
        exact ⟨[], rfl, fun c member => nomatch member⟩
      | succ bytes =>
        rw [dropBytes?] at dropped
        cases dropped
    · obtain ⟨blanks, whole, each, -⟩ := exists_blanks_of_dropBytes? dropped (few (by simp))
      exact ⟨blanks, whole, each⟩

theorem commonIndentation_le {ls : List (List Char)} {line : List Char} (member : line ∈ ls) (some : line ≠ []) :
    commonIndentation ls ≤ indentation line := by
  have kept : indentation line ∈ (ls.filter fun line => !line.isEmpty).map indentation :=
    List.mem_map_of_mem (List.mem_filter.mpr ⟨member, by simpa using some⟩)
  rw [commonIndentation]
  cases least : ((ls.filter fun line => !line.isEmpty).map indentation).min? with
  | none =>
    rw [List.min?_eq_none_iff.mp least] at kept
    cases kept
  | some common => exact (List.min?_eq_some_iff.mp least).2 _ kept

theorem exists_commonIndentation {ls : List (List Char)} {line : List Char} (member : line ∈ ls) (some : line ≠ []) :
    ∃ least ∈ ls, least ≠ [] ∧ indentation least = commonIndentation ls := by
  have kept : line ∈ ls.filter fun line => !line.isEmpty := List.mem_filter.mpr ⟨member, by simpa using some⟩
  rw [commonIndentation]
  cases least : ((ls.filter fun line => !line.isEmpty).map indentation).min? with
  | none =>
    rw [List.map_eq_nil_iff.mp (List.min?_eq_none_iff.mp least)] at kept
    cases kept
  | some common =>
    obtain ⟨other, inFilter, same⟩ := List.mem_map.mp (List.min?_mem least)
    obtain ⟨inLines, nonempty⟩ := List.mem_filter.mp inFilter
    exact ⟨other, inLines, by simpa using nonempty, same⟩

theorem sameCode_unindent (text : List Char) : SameCode (unindent text ++ ['\n']) (text ++ ['\n']) := by
  have few : ∀ line ∈ content text, line ≠ [] → commonIndentation (content text) ≤ indentation line :=
    fun line member some => commonIndentation_le member some
  have shifted : SameCode (feed ((content text).map (shift (commonIndentation (content text))))) (feed (content text)) := by
    refine SameCode.feedLines fun line member => ?_
    obtain ⟨blanks, whole, blank⟩ := exists_blanks_of_shift (few line member)
    have seen := @SameCode.lineStart (shift (commonIndentation (content text)) line) blanks blank
    rwa [← whole] at seen
  have trimmed : SameCode (feed ((Text.lines text).map Text.trimEnd)) (feed (Text.lines text)) :=
    SameCode.feedLines fun line _ => SameCode.trimEnd line
  have whole := shifted.trans ((SameCode.content _).trans (trimmed.trans (SameCode.lines text)))
  rw [unindent_eq]
  -- joining no lines gives the same text as joining one that is empty
  cases kept : content text with
  | nil =>
    rw [kept] at whole
    have empty : SameCode [] (feed [[]]) := SameCode.emptyLines (by decide)
    exact empty.symm.trans whole
  | cons line rest =>
    rw [kept] at whole
    rw [intercalate_feed (by simp)]
    exact whole

/-- Nothing that decides about balance is lost. -/
theorem bracketChars_unindent (text : List Char) : bracketChars .code (unindent text) = bracketChars .code text := by
  have same := (sameCode_unindent text .code beginsLine_code).1
  simpa only [bracketChars_append, bracketChars_blanks blank_feed, List.append_nil] using same

section Idempotence

variable {text line : List Char} {ls : List (List Char)}

theorem head_contentLines : ∀ line ∈ (contentLines ls).head?, line ≠ [] := by
  intro line first empty
  have start : contentLines ls <+: ls.dropWhile List.isEmpty := List.rdropWhile_prefix _ _
  obtain ⟨rest, whole⟩ := start
  have kept := List.head?_dropWhile_not List.isEmpty ls
  rw [← whole, List.head?_append, Option.mem_def.mp first, empty] at kept
  cases kept

theorem last_contentLines : ∀ line ∈ (contentLines ls).getLast?, line ≠ [] := by
  intro line last empty
  have kept := List.head?_dropWhile_not List.isEmpty (ls.dropWhile List.isEmpty).reverse
  rw [contentLines, List.getLast?_reverse, Option.mem_def] at last
  rw [last, empty] at kept
  cases kept

theorem contentLines_eq (first : ∀ line ∈ ls.head?, line ≠ []) (last : ∀ line ∈ ls.getLast?, line ≠ []) :
    contentLines ls = ls := by
  have start : ls.dropWhile List.isEmpty = ls := by
    cases ls with
    | nil => rfl
    | cons line rest =>
      have nonempty : line.isEmpty = false := by simpa using first line rfl
      rw [List.dropWhile_cons, nonempty]
      rfl
  have whole : contentLines ls = (ls.dropWhile List.isEmpty).rdropWhile List.isEmpty := rfl
  rw [whole, start, List.rdropWhile_eq_self_iff]
  intro some
  simpa using last _ (List.getLast_mem_getLast? some)

/-- A line without blanks at its end. -/
structure IsTrimmedLine (line : List Char) : Prop where
  whole : '\n' ∉ line
  last : ∀ c ∈ line.getLast?, isBlank c = false

namespace IsTrimmedLine

theorem isLine (trimmed : IsTrimmedLine line) : IsLine line := by
  refine ⟨trimmed.whole, fun ended => ?_⟩
  have visible := trimmed.last '\r' ended
  revert visible
  decide

theorem of_mem_content (member : line ∈ content text) : IsTrimmedLine line := by
  have kept : contentLines ((Text.lines text).map Text.trimEnd) ⊆ (Text.lines text).map Text.trimEnd :=
    List.Subset.trans (List.rdropWhile_prefix _ _).subset (List.dropWhile_suffix _).subset
  obtain ⟨written, inLines, rfl⟩ := List.mem_map.mp (kept member)
  exact ⟨fun inside => notMem_of_mem_lines inLines (trimEnd_isPrefix.subset inside), last_trimEnd⟩

theorem of_append {blanks : List Char} (trimmed : IsTrimmedLine (blanks ++ line))
    (blank : ∀ c ∈ blanks, isBlank c = true) : IsTrimmedLine line ∧ (line = [] → blanks = []) := by
  refine ⟨⟨fun inside => trimmed.whole (List.mem_append_right _ inside), fun c last => ?_⟩, ?_⟩
  · exact trimmed.last c (by rw [List.getLast?_append, last]; rfl)
  · rintro rfl
    rcases List.eq_nil_or_concat' blanks with rfl | ⟨start, final, rfl⟩
    · rfl
    · have visible := trimmed.last final (by simp)
      rw [blank final (by simp)] at visible
      cases visible

end IsTrimmedLine

/-- The lines of an unindented text. -/
def shifted (text : List Char) : List (List Char) :=
  (content text).map (shift (commonIndentation (content text)))

theorem trimmedLine_shift (member : line ∈ content text) :
    IsTrimmedLine (shift (commonIndentation (content text)) line) ∧
      (shift (commonIndentation (content text)) line = [] → line = []) := by
  obtain ⟨blanks, whole, blank⟩ := exists_blanks_of_shift fun some => commonIndentation_le member some
  have trimmed := IsTrimmedLine.of_mem_content member
  rw [whole] at trimmed
  obtain ⟨kept, none⟩ := trimmed.of_append blank
  refine ⟨kept, fun empty => ?_⟩
  rw [whole, empty, none empty]
  rfl

theorem commonIndentation_shifted (some : content text ≠ []) : commonIndentation (shifted text) = 0 := by
  obtain ⟨line, rest, kept⟩ := List.exists_cons_of_ne_nil some
  have first : line ≠ [] := head_contentLines line (by rw [← content, kept]; rfl)
  obtain ⟨least, member, nonempty, same⟩ := exists_commonIndentation (kept ▸ List.mem_cons_self) first
  -- the line that the common indentation comes from keeps none of its own
  have moved : shift (commonIndentation (content text)) least = trimStart least := by
    rw [shift, ← same, dropBytes?_indentation]
    rfl
  have few := commonIndentation_le (List.mem_map_of_mem member)
    fun empty => nonempty ((trimmedLine_shift member).2 empty)
  rw [moved, indentation_of_head head_trimStart] at few
  exact Nat.le_zero.mp few

theorem head_shifted : ∀ line ∈ (shifted text).head?, line ≠ [] := by
  intro line first empty
  rw [shifted, List.head?_map, Option.mem_def, Option.map_eq_some_iff] at first
  obtain ⟨written, start, rfl⟩ := first
  exact head_contentLines written start ((trimmedLine_shift (List.mem_of_head? start)).2 empty)

theorem last_shifted : ∀ line ∈ (shifted text).getLast?, line ≠ [] := by
  intro line last empty
  rw [shifted, List.getLast?_map, Option.mem_def, Option.map_eq_some_iff] at last
  obtain ⟨written, final, rfl⟩ := last
  exact last_contentLines written final ((trimmedLine_shift (List.mem_of_getLast? final)).2 empty)

theorem trimmedLine_of_mem_shifted (member : line ∈ shifted text) : IsTrimmedLine line := by
  obtain ⟨written, inContent, rfl⟩ := List.mem_map.mp member
  exact (trimmedLine_shift inContent).1

theorem lines_unindent (text : List Char) : Text.lines (unindent text) = shifted text := by
  rw [unindent_eq]
  refine lines_intercalate (fun line member => (trimmedLine_of_mem_shifted member).isLine) fun last => ?_
  exact last_shifted [] last rfl

theorem content_unindent (text : List Char) : content (unindent text) = shifted text := by
  have trimmed : (shifted text).map Text.trimEnd = shifted text := by
    conv_rhs => rw [← List.map_id (shifted text)]
    exact List.map_congr_left fun line member => trimEnd_of_last (trimmedLine_of_mem_shifted member).last
  rw [content, lines_unindent, trimmed]
  exact contentLines_eq head_shifted last_shifted

/-- What was unindented once has no indentation that all lines share. -/
theorem unindent_unindent (text : List Char) : unindent (unindent text) = unindent text := by
  rw [unindent_eq (unindent text), content_unindent, unindent_eq text, ← shifted]
  by_cases none : content text = []
  · rw [shifted, none]
    rfl
  · have same : (shifted text).map (shift 0) = shifted text := by
      conv_rhs => rw [← List.map_id (shifted text)]
      refine List.map_congr_left fun line _ => ?_
      rw [shift, dropBytes?_zero]
      rfl
    rw [commonIndentation_shifted none, same]

end Idempotence

end DeviceConfig.Lambda
