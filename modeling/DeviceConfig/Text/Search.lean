/-!
Finding, cutting and joining on texts.
-/

namespace DeviceConfig.Text

/-- The text cut at each character that satisfies the test; the cut characters are left out.
    There is always at least one piece. -/
def splitOn (cut : Char → Bool) : List Char → List (List Char)
  | [] => [[]]
  | c :: rest =>
    if cut c then [] :: splitOn cut rest
    else
      match splitOn cut rest with
      | [] => [[c]]
      | piece :: more => (c :: piece) :: more

/-- The text cut at line feeds; a final line feed ends the last line instead of starting one, and
    a carriage return before a line feed belongs to the line's end. -/
def lines (text : List Char) : List (List Char) :=
  let pieces := splitOn (· == '\n') text
  let ended := pieces.dropLast.map fun line =>
    if line.getLast? == some '\r' then line.dropLast else line
  match pieces.getLast? with
  | none | some [] => ended
  | some last => ended ++ [last]

/-- What stands before and after the first occurrence of a pattern. -/
def cutAt? (pattern : List Char) : List Char → Option (List Char × List Char)
  | [] => if pattern.isEmpty then some ([], []) else none
  | c :: rest =>
    if pattern.isPrefixOf (c :: rest) then some ([], (c :: rest).drop pattern.length)
    else (cutAt? pattern rest).map fun (before, after) => (c :: before, after)

def cutAtChar? (mark : Char) : List Char → Option (List Char × List Char)
  | [] => none
  | c :: rest =>
    if c == mark then some ([], rest)
    else (cutAtChar? mark rest).map fun (before, after) => (c :: before, after)

/-- What is cut off and what is left make up the text, and the mark is the first one. -/
theorem eq_of_cutAtChar? {mark : Char} {text before after : List Char}
    (found : cutAtChar? mark text = some (before, after)) :
    text = before ++ mark :: after ∧ mark ∉ before := by
  induction text generalizing before with
  | nil => simp [cutAtChar?] at found
  | cons c rest ih =>
    by_cases here : c = mark
    · simp only [cutAtChar?, here, beq_self_eq_true, if_true, Option.some.injEq, Prod.mk.injEq] at found
      obtain ⟨rfl, rfl⟩ := found
      simp [here]
    · simp only [cutAtChar?, beq_iff_eq, here, if_false, Option.map_eq_some_iff] at found
      obtain ⟨⟨start, last⟩, deeper, same⟩ := found
      simp only [Prod.mk.injEq] at same
      obtain ⟨rfl, rfl⟩ := same
      obtain ⟨whole, absent⟩ := ih deeper
      exact ⟨by rw [whole]; rfl, by simp [absent, Ne.symm here]⟩

def cutAtLast? (mark : Char) : List Char → Option (List Char × List Char)
  | [] => none
  | c :: rest =>
    match cutAtLast? mark rest with
    | some (before, after) => some (c :: before, after)
    | none => if c == mark then some ([], rest) else none

theorem not_mem_of_cutAtLast? {mark : Char} {text : List Char} (found : cutAtLast? mark text = none) :
    mark ∉ text := by
  induction text with
  | nil => simp
  | cons c rest ih =>
    unfold cutAtLast? at found
    split at found
    · simp at found
    · rename_i none
      split at found
      · simp at found
      · rename_i other
        simp only [beq_iff_eq] at other
        simp [ih none, Ne.symm other]

theorem eq_of_cutAtLast? {mark : Char} {text before after : List Char}
    (found : cutAtLast? mark text = some (before, after)) :
    text = before ++ mark :: after ∧ mark ∉ after := by
  induction text generalizing before with
  | nil => simp [cutAtLast?] at found
  | cons c rest ih =>
    unfold cutAtLast? at found
    split at found
    · rename_i start last deeper
      simp only [Option.some.injEq, Prod.mk.injEq] at found
      obtain ⟨rfl, rfl⟩ := found
      obtain ⟨whole, absent⟩ := ih deeper
      exact ⟨by rw [whole]; rfl, absent⟩
    · rename_i none
      split at found
      · rename_i here
        simp only [Option.some.injEq, Prod.mk.injEq] at found
        obtain ⟨rfl, rfl⟩ := found
        simp only [beq_iff_eq] at here
        exact ⟨by rw [here]; rfl, not_mem_of_cutAtLast? none⟩
      · simp at found

def join (separator : String) (parts : List String) : String :=
  String.intercalate separator parts

end DeviceConfig.Text
