import DeviceConfig.Lambda.Code
import DeviceConfig.Proofs.Text.Blank

/-!
What a scan of code sees of a text: where it stands at the end, and the brackets that stand in code. Whether
a text is in balance depends on these brackets alone (`firstUnbalanced?_eq_none_iff`).
-/

namespace DeviceConfig.Lambda

namespace Mode

/-- Where the scan stands after a text. -/
def after (mode : Mode) (text : List Char) : Mode := text.foldl next mode

def isLiteral : Mode → Bool
  | literal _ => true
  | escape _ => true
  | _ => false

@[simp] theorem after_nil (mode : Mode) : mode.after [] = mode := rfl

@[simp] theorem after_cons (mode : Mode) (c : Char) (rest : List Char) :
    mode.after (c :: rest) = (mode.next c).after rest := rfl

theorem after_append (mode : Mode) (text rest : List Char) :
    mode.after (text ++ rest) = (mode.after text).after rest := List.foldl_append

/-- Where a scan that has begun in code can stand: literals have one of the two quotes. -/
def IsProper : Mode → Prop
  | literal quote => quote = '"' ∨ quote = '\''
  | escape quote => quote = '"' ∨ quote = '\''
  | _ => True

theorem isProper_afterCode (c : Char) : (afterCode c).IsProper := by
  unfold afterCode
  split
  · rename_i quote
    simpa [IsProper] using quote
  · split <;> exact True.intro

theorem IsProper.next {mode : Mode} (proper : mode.IsProper) (c : Char) : (mode.next c).IsProper := by
  cases mode with
  | code => exact isProper_afterCode c
  | slash =>
    simp only [Mode.next]
    split
    · exact True.intro
    · exact isProper_afterCode c
  | literal quote =>
    simp only [Mode.next]
    split
    · exact proper
    · split
      · exact True.intro
      · exact proper
  | escape quote => exact proper
  | comment =>
    simp only [Mode.next]
    split <;> exact True.intro

theorem IsProper.after {mode : Mode} (proper : mode.IsProper) (text : List Char) :
    (mode.after text).IsProper := by
  induction text generalizing mode with
  | nil => exact proper
  | cons c rest ih => exact ih (proper.next c)

end Mode

def isBracket (mode : Mode) (c : Char) : Bool := mode.isCode && (isOpening c || isClosing c)

/-- The brackets of a text that stand in code. The text starts at `offset`. -/
def brackets (mode : Mode) (offset : Nat) : List Char → List Bracket
  | [] => []
  | c :: rest =>
    let later := brackets (mode.next c) (offset + c.utf8Size) rest
    if isBracket mode c then ⟨c, offset⟩ :: later else later

/-- The brackets that are open after some more, the last one first, if each that closes one closes the
    last that is open. -/
def openAfter? (outer : List Bracket) : List Bracket → Option (List Bracket)
  | [] => some outer
  | bracket :: rest =>
    if isOpening bracket.char then openAfter? (bracket :: outer) rest
    else
      match outer with
      | [] => none
      | last :: enclosing =>
        if last.char == openingOf bracket.char then openAfter? enclosing rest else none

theorem brackets_append (mode : Mode) (offset : Nat) (text rest : List Char) :
    brackets mode offset (text ++ rest) =
      brackets mode offset text ++ brackets (mode.after text) (offset + Text.byteLength text) rest := by
  induction text generalizing mode offset with
  | nil => rfl
  | cons c text ih =>
    simp only [List.cons_append, brackets, ih, Mode.after_cons, Text.byteLength_cons, Nat.add_assoc]
    split <;> rfl

theorem openAfter?_append (outer first rest : List Bracket) :
    openAfter? outer (first ++ rest) = (openAfter? outer first).bind fun inner => openAfter? inner rest := by
  induction first generalizing outer with
  | nil => rfl
  | cons bracket first ih =>
    simp only [List.cons_append, openAfter?, ih]
    split
    · rfl
    · split
      · rfl
      · split <;> rfl

/-- What is open inside stays apart from what was open before. -/
theorem openAfter?_outer {outer inner result : List Bracket} {list : List Bracket}
    (opened : openAfter? inner list = some result) : openAfter? (inner ++ outer) list = some (result ++ outer) := by
  induction list generalizing inner with
  | nil =>
    cases opened
    rfl
  | cons bracket rest ih =>
    by_cases opening : isOpening bracket.char = true
    · simp only [openAfter?, opening, if_true] at opened ⊢
      exact ih opened
    · cases inner with
      | nil => simp [openAfter?, opening] at opened
      | cons last enclosing =>
        by_cases pair : (last.char == openingOf bracket.char) = true
        · simp only [List.cons_append, openAfter?, opening, pair, if_true, Bool.false_eq_true, if_false] at opened ⊢
          exact ih opened
        · simp [openAfter?, opening, pair] at opened

theorem unbalanced?_eq_none_iff (mode : Mode) (outer : List Bracket) (offset : Nat) (text : List Char) :
    unbalanced? mode outer offset text = none ↔ openAfter? outer (brackets mode offset text) = some [] := by
  induction text generalizing mode outer offset with
  | nil => simp [unbalanced?, brackets, openAfter?]
  | cons c rest ih =>
    -- the cases of the scan: whether this is code, whether it opens or closes, and what it would close
    by_cases code : mode.isCode = true
    · by_cases opening : isOpening c = true
      · simp [unbalanced?, brackets, isBracket, openAfter?, code, opening, ih]
      · by_cases closing : isClosing c = true
        · cases outer with
          | nil => simp [unbalanced?, brackets, isBracket, openAfter?, code, opening, closing]
          | cons last enclosing =>
            by_cases pair : last.char = openingOf c
            · simp [unbalanced?, brackets, isBracket, openAfter?, code, opening, closing, pair, ih]
            · simp [unbalanced?, brackets, isBracket, openAfter?, code, opening, closing, pair]
        · simp [unbalanced?, brackets, isBracket, code, opening, closing, ih]
    · simp [unbalanced?, brackets, isBracket, code, ih]

theorem firstUnbalanced?_eq_none_iff {offset : Nat} {text : List Char} :
    firstUnbalanced? offset text = none ↔ openAfter? [] (brackets .code offset text) = some [] :=
  unbalanced?_eq_none_iff .code [] offset text

/-- The brackets of a text that stand in code, wherever the text starts. -/
def bracketChars (mode : Mode) (text : List Char) : List Char := (brackets mode 0 text).map (·.char)

theorem map_char_brackets (mode : Mode) (offset : Nat) (text : List Char) :
    (brackets mode offset text).map (·.char) = bracketChars mode text := by
  rw [bracketChars]
  -- the offsets of both sides move on, so the induction is on any two
  generalize 0 = other
  induction text generalizing mode offset other with
  | nil => rfl
  | cons c rest ih =>
    simp only [brackets]
    split
    · rw [List.map_cons, List.map_cons, ih]
    · exact ih _ _ _

@[simp] theorem bracketChars_nil (mode : Mode) : bracketChars mode [] = [] := rfl

theorem bracketChars_cons (mode : Mode) (c : Char) (rest : List Char) :
    bracketChars mode (c :: rest) =
      if isBracket mode c then c :: bracketChars (mode.next c) rest else bracketChars (mode.next c) rest := by
  rw [bracketChars, brackets]
  split
  · rw [List.map_cons, map_char_brackets]
  · rw [map_char_brackets]

theorem bracketChars_append (mode : Mode) (text rest : List Char) :
    bracketChars mode (text ++ rest) = bracketChars mode text ++ bracketChars (mode.after text) rest := by
  rw [bracketChars, brackets_append, List.map_append, map_char_brackets, map_char_brackets]

theorem map_char_openAfter? {outer other list others : List Bracket}
    (sameOuter : outer.map (·.char) = other.map (·.char)) (same : list.map (·.char) = others.map (·.char)) :
    (openAfter? outer list).map (·.map (·.char)) = (openAfter? other others).map (·.map (·.char)) := by
  induction list generalizing outer other others with
  | nil =>
    obtain rfl := List.map_eq_nil_iff.mp same.symm
    simp [openAfter?, sameOuter]
  | cons bracket rest ih =>
    cases others with
    | nil => cases same
    | cons twin twins =>
      simp only [List.map_cons, List.cons.injEq] at same
      obtain ⟨alike, later⟩ := same
      simp only [openAfter?, alike]
      split
      · exact ih (by simp [alike, sameOuter]) later
      · cases outer with
        | nil =>
          obtain rfl := List.map_eq_nil_iff.mp sameOuter.symm
          rfl
        | cons last enclosing =>
          cases other with
          | nil => cases sameOuter
          | cons lastTwin enclosingTwins =>
            simp only [List.map_cons, List.cons.injEq] at sameOuter
            simp only [sameOuter.1]
            split
            · exact ih sameOuter.2 later
            · rfl

/-- Whether a text is in balance does not depend on where it starts, nor on anything but its brackets. -/
theorem firstUnbalanced?_congr {offset other : Nat} {text twin : List Char}
    (same : bracketChars .code text = bracketChars .code twin) :
    firstUnbalanced? offset text = none ↔ firstUnbalanced? other twin = none := by
  have mapped := @map_char_openAfter? [] [] _ _ rfl
    ((map_char_brackets .code offset text).trans (same.trans (map_char_brackets .code other twin).symm))
  rw [firstUnbalanced?_eq_none_iff, firstUnbalanced?_eq_none_iff]
  cases opened : openAfter? [] (brackets .code offset text) <;>
    cases twinOpened : openAfter? [] (brackets .code other twin) <;> simp_all
  rw [← List.map_eq_nil_iff (f := fun bracket : Bracket => bracket.char), mapped, List.map_eq_nil_iff]

end DeviceConfig.Lambda
