import DeviceConfig.Proofs.Lambda.Reading
import Mathlib

/-!
The body of a lambda between braces. Whatever was accepted as a body never closes the block early, and what
follows the block is outside of it just if the body does not end inside a literal (`isClosed_block_iff`).
-/

namespace DeviceConfig.Lambda

/-- The braces that stand around a body in the program. -/
def block (body : List Char) : List Char := '\x7b' :: '\n' :: body ++ ['\n', '\x7d']

/-- The brace at the start of a text. -/
def firstBrace : Bracket := ⟨'\x7b', 0⟩

/-- The last character is a brace of the code, and it closes the one at the start of the text. -/
def IsClosed (text : List Char) : Prop :=
  ∃ inner, text = inner ++ ['\x7d'] ∧ (Mode.code.after inner).isCode = true ∧
    openAfter? [] (brackets .code 0 inner) = some [firstBrace]

/-- In a block with this body, the first brace is still open wherever the body is cut. -/
def StaysOpen (body : List Char) : Prop :=
  ∀ start rest, body = start ++ rest →
    ∃ inner, openAfter? [] (brackets .code 0 ('\x7b' :: '\n' :: start)) = some (inner ++ [firstBrace])

/-- A line feed ends all that is not code, but for literals. -/
theorem isCode_next_feed {mode : Mode} (proper : mode.IsProper) :
    (mode.next '\n').isCode = true ↔ mode.isLiteral = false := by
  cases mode with
  | code => simp [Mode.next, afterCode_of_blank Text.isBlank_feed, Mode.isCode, Mode.isLiteral]
  | slash => simp [Mode.next, afterCode_of_blank Text.isBlank_feed, Mode.isCode, Mode.isLiteral]
  | literal quote => simp [next_of_blank_literal Text.isBlank_feed proper, Mode.isCode, Mode.isLiteral]
  | escape quote => simp [Mode.next, Mode.isCode, Mode.isLiteral]
  | comment => simp [Mode.next, Mode.isCode, Mode.isLiteral]

section Body

variable {body : List Char}

theorem IsBalanced.openAfter?_eq (balanced : IsBalanced body) (offset : Nat) :
    openAfter? [] (brackets .code offset body) = some [] :=
  firstUnbalanced?_eq_none_iff.mp ((firstUnbalanced?_congr rfl).mp balanced)

theorem openAfter?_block_start {start : List Char} {inner : List Bracket}
    (opened : openAfter? [] (brackets .code 2 start) = some inner) :
    openAfter? [] (brackets .code 0 ('\x7b' :: '\n' :: start)) = some (inner ++ [firstBrace]) :=
  openAfter?_outer opened

theorem IsBalanced.staysOpen (balanced : IsBalanced body) : StaysOpen body := by
  rintro start rest rfl
  -- the scan of the whole body succeeds, so that of its start does, with the first brace below all that it leaves open
  have whole := balanced.openAfter?_eq 2
  rw [brackets_append, openAfter?_append, Option.bind_eq_some_iff] at whole
  obtain ⟨inner, opened, -⟩ := whole
  exact ⟨inner, openAfter?_block_start opened⟩

theorem IsBalanced.isClosed_iff (balanced : IsBalanced body) :
    IsClosed (block body) ↔ (Mode.code.after body).isLiteral = false := by
  have proper : (Mode.code.after body).IsProper := beginsLine_code.1.after body
  have whole : block body = ('\x7b' :: '\n' :: body ++ ['\n']) ++ ['\x7d'] := by simp [block]
  have ends : Mode.code.after ('\x7b' :: '\n' :: body ++ ['\n']) = (Mode.code.after body).next '\n' := by
    rw [Mode.after_append]
    rfl
  -- the line feed before the last brace is blank: it closes nothing, but it ends a comment
  have fed : IsBalanced (body ++ ['\n']) := by
    refine (firstUnbalanced?_congr ?_).mp balanced
    rw [bracketChars_append, bracketChars_blanks Text.blank_feed, List.append_nil]
  have opened : openAfter? [] (brackets .code 0 ('\x7b' :: '\n' :: body ++ ['\n'])) = some [firstBrace] :=
    openAfter?_block_start (fed.openAfter?_eq 2)
  rw [← isCode_next_feed proper, ← ends]
  constructor
  · rintro ⟨inner, same, inCode, -⟩
    obtain ⟨rfl, -⟩ := List.append_inj' (whole.symm.trans same) rfl
    exact inCode
  · intro inCode
    exact ⟨_, whole, inCode, opened⟩

end Body

theorem isClosed_block_iff {text : String} {lambda : Lambda} (accepted : read text = .ok lambda) :
    StaysOpen lambda.body.toList ∧
      (IsClosed (block lambda.body.toList) ↔ (Mode.code.after lambda.body.toList).isLiteral = false) := by
  obtain ⟨written, balanced, same⟩ := (read_gives accepted).body
  rw [same, String.toList_ofList]
  exact ⟨balanced.unindent.staysOpen, balanced.unindent.isClosed_iff⟩

theorem isClosed_block_comment :
    read "() \x7b\n  f(\"\x7d\"); // it's \x7d" = .ok ⟨some ⟨[], none⟩, "f(\"\x7d\"); // it's"⟩ ∧
      StaysOpen "f(\"\x7d\"); // it's".toList ∧
      (IsClosed (block "f(\"\x7d\"); // it's".toList) ↔
        (Mode.code.after "f(\"\x7d\"); // it's".toList).isLiteral = false) := by
  have accepted : read "() \x7b\n  f(\"\x7d\"); // it's \x7d" = .ok ⟨some ⟨[], none⟩, "f(\"\x7d\"); // it's"⟩ := by cbv
  exact ⟨accepted, isClosed_block_iff accepted⟩

/-- A literal that never ends is accepted, and takes the closing brace with it. -/
theorem not_isClosed_block_literal :
    ∃ lambda, read "return \"a;" = .ok lambda ∧ ¬IsClosed (block lambda.body.toList) := by
  have accepted : read "return \"a;" = .ok ⟨none, "return \"a;"⟩ := by cbv
  have balanced : IsBalanced "return \"a;".toList := by cbv
  refine ⟨_, accepted, fun closed => ?_⟩
  have outside := balanced.isClosed_iff.mp closed
  revert outside
  decide

end DeviceConfig.Lambda
