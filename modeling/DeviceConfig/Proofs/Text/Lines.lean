import DeviceConfig.Text.Search
import Mathlib.Data.List.Basic

/-!
Lines of a text. Lines that hold no line end and of which the last is not empty are read back from the text that
they make up (`lines_intercalate`).
-/

namespace DeviceConfig.Text

theorem splitOn_eq (cut : Char → Bool) (text : List Char) : splitOn cut text = text.splitOnP cut := by
  induction text with
  | nil => rfl
  | cons c rest ih =>
    rw [splitOn, ih, List.splitOnP_cons_eq_if_modifyHead]
    split
    · rfl
    · cases pieces : rest.splitOnP cut with
      | nil => exact absurd pieces (List.splitOnP_ne_nil cut rest)
      | cons piece more => rfl

/-- The text at its line feeds. -/
theorem splitOn_feed (text : List Char) : splitOn (· == '\n') text = text.splitOn '\n' := splitOn_eq _ text

/-- A line without the carriage return at its end. -/
def withoutReturn (line : List Char) : List Char :=
  if line.getLast? == some '\r' then line.dropLast else line

/-- The last piece between line feeds, which is a line if it is not empty. -/
def lastLine (pieces : List (List Char)) : List (List Char) :=
  match pieces.getLast? with
  | none | some [] => []
  | some last => [last]

theorem lines_eq (text : List Char) :
    lines text = (text.splitOn '\n').dropLast.map withoutReturn ++ lastLine (text.splitOn '\n') := by
  rw [lines, splitOn_feed, lastLine]
  have same : (fun line : List Char => if line.getLast? == some '\r' then line.dropLast else line) =
      withoutReturn := rfl
  simp only [same]
  split <;> simp [*]

/-- A line that is not the last one: no line feed stands in it, and no carriage return at its end. -/
structure IsLine (line : List Char) : Prop where
  whole : '\n' ∉ line
  ended : line.getLast? ≠ some '\r'

theorem IsLine.withoutReturn_eq {line : List Char} (isLine : IsLine line) : withoutReturn line = line :=
  if_neg (by simpa using isLine.ended)

theorem notMem_of_mem_splitOn {mark : Char} {text piece : List Char} (member : piece ∈ text.splitOn mark) :
    mark ∉ piece := by
  induction text generalizing piece with
  | nil =>
    rw [List.splitOn_nil, List.mem_singleton] at member
    simp [member]
  | cons c rest ih =>
    rw [List.splitOn_cons_eq_if_modifyHead] at member
    split at member
    · rcases List.mem_cons.mp member with rfl | inRest
      · simp
      · exact ih inRest
    · rename_i other
      cases pieces : rest.splitOn mark with
      | nil => exact absurd pieces (List.splitOn_ne_nil mark rest)
      | cons first more =>
        rw [pieces, List.modifyHead_cons] at member
        rcases List.mem_cons.mp member with rfl | inRest
        · have absent : mark ∉ first := ih (by rw [pieces]; exact List.mem_cons_self)
          simpa [absent] using Ne.symm (by simpa using other)
        · exact ih (by rw [pieces]; exact List.mem_cons_of_mem _ inRest)

/-- The lines as a text in which a line feed ends each of them. -/
def feed (ls : List (List Char)) : List Char := ls.flatMap fun line => line ++ ['\n']

@[simp] theorem feed_nil : feed [] = [] := rfl

@[simp] theorem feed_cons (line : List Char) (ls : List (List Char)) :
    feed (line :: ls) = line ++ ['\n'] ++ feed ls := rfl

@[simp] theorem feed_append (ls more : List (List Char)) : feed (ls ++ more) = feed ls ++ feed more :=
  List.flatMap_append

theorem intercalate_feed {ls : List (List Char)} (some : ls ≠ []) :
    ['\n'].intercalate ls ++ ['\n'] = feed ls := by
  induction ls with
  | nil => exact absurd rfl some
  | cons line rest ih =>
    cases rest with
    | nil => simp
    | cons next more =>
      rw [List.intercalate_cons_of_ne_nil (by simp), feed_cons, List.append_assoc, List.append_assoc,
        ih (by simp)]
      simp

theorem feed_splitOn (text : List Char) : feed (text.splitOn '\n') = text ++ ['\n'] := by
  rw [← intercalate_feed (List.splitOn_ne_nil '\n' text), List.intercalate_splitOn]

theorem notMem_of_mem_lines {text line : List Char} (member : line ∈ lines text) : '\n' ∉ line := by
  rw [lines_eq] at member
  rcases List.mem_append.mp member with ended | last
  · obtain ⟨piece, inPieces, rfl⟩ := List.mem_map.mp ended
    have absent := notMem_of_mem_splitOn (List.dropLast_subset _ inPieces)
    rw [withoutReturn]
    split
    · exact fun inside => absent (List.dropLast_subset _ inside)
    · exact absent
  · rw [lastLine] at last
    split at last
    · cases last
    · cases last
    · rename_i piece pieces
      obtain rfl := List.mem_singleton.mp last
      exact notMem_of_mem_splitOn (List.mem_of_getLast? pieces)

theorem lines_intercalate {ls : List (List Char)} (areLines : ∀ line ∈ ls, IsLine line)
    (last : ls.getLast? ≠ some []) : lines (['\n'].intercalate ls) = ls := by
  rcases List.eq_nil_or_concat' ls with rfl | ⟨before, final, rfl⟩
  · rfl
  · have whole : (['\n'].intercalate (before ++ [final])).splitOn '\n' = before ++ [final] :=
      List.splitOn_intercalate '\n' (fun line member => (areLines line member).whole) (by simp)
    have ended : before.map withoutReturn = before := by
      conv_rhs => rw [← List.map_id before]
      refine List.map_congr_left fun line member => ?_
      exact (areLines line (List.mem_append_left _ member)).withoutReturn_eq
    have nonempty : final ≠ [] := by simpa using last
    rw [lines_eq, whole, List.dropLast_concat, ended, lastLine, List.getLast?_concat]
    cases final with
    | nil => exact absurd rfl nonempty
    | cons c rest => rfl

end DeviceConfig.Text
