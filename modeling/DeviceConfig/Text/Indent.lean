import DeviceConfig.Text.Blank

/-!
Indenting the lines of a text. A line keeps its line feed.
-/

namespace DeviceConfig.Text

/-- The lines with their line feeds; the last may have none. -/
def fullLines : List Char → List (List Char)
  | [] => []
  | c :: rest =>
    if c == '\n' then ['\n'] :: fullLines rest
    else
      match rest, fullLines rest with
      | [], _ => [[c]]
      | _, line :: more => (c :: line) :: more
      | _, [] => [[c]]

/-- Nothing of the text is lost. -/
theorem flatten_fullLines (text : List Char) : (fullLines text).flatten = text := by
  induction text with
  | nil => rfl
  | cons c rest ih =>
    unfold fullLines
    split
    · rename_i feed
      simp_all
    · split
      · rfl
      · rename_i lines
        rw [lines] at ih
        simp_all
      · rename_i lines
        rw [lines] at ih
        simp_all

/-- Puts the padding before each line that is not blank. -/
def indent (padding : String) (text : String) : String :=
  String.ofList ((fullLines text.toList).flatMap fun line =>
    if line.all isBlank then line else padding.toList ++ line)

/-- Puts the padding before all lines but the first and the last. -/
def indentInner (padding : String) (text : String) : String :=
  match fullLines text.toList with
  | [] => ""
  | first :: rest =>
    let inner := rest.dropLast.flatMap fun line => padding.toList ++ line
    let last := rest.getLast?.getD []
    String.ofList (first ++ inner ++ last)

end DeviceConfig.Text
