import DeviceConfig.Proofs.Lambda.Indentation

/-!
Parts of a text by the byte offsets of their ends, and differences that are not below zero. What stands between two
offsets of characters can be cut out (`slice?_append`).
-/

namespace DeviceConfig.Text

open Lambda (dropBytes? dropBytes?_zero indentation indentation_add_trimStart)

/-- The first bytes of a text, unless there are too few or the cut would go through a character. -/
def takeBytes? : Nat → List Char → Option (List Char)
  | 0, _ => some []
  | _ + 1, [] => none
  | bytes + 1, c :: rest =>
    if c.utf8Size ≤ bytes + 1 then (takeBytes? (bytes + 1 - c.utf8Size) rest).map (c :: ·) else none
termination_by _ text => text.length

/-- The part of a text between two offsets, unless they are out of order, outside the text or inside a character. -/
def slice? (text : List Char) (start finish : Nat) : Option (List Char) :=
  if start ≤ finish then (dropBytes? start text).bind (takeBytes? (finish - start)) else none

/-- A difference, unless it is below zero. -/
def minus? (a b : Nat) : Option Nat := if b ≤ a then some (a - b) else none

/-- The bytes of the blanks that a text starts with, as a difference of lengths. -/
def lead? (text : List Char) : Option Nat := minus? (byteLength text) (byteLength (trimStart text))

variable (a b c : List Char)

theorem exists_byteLength_cons (first : Char) (rest : List Char) :
    ∃ bytes, byteLength (first :: rest) = bytes + 1 ∧ first.utf8Size ≤ bytes + 1 ∧
      bytes + 1 - first.utf8Size = byteLength rest := by
  have positive := first.utf8Size_pos
  refine ⟨byteLength (first :: rest) - 1, ?_, ?_, ?_⟩ <;>
  · rw [byteLength_cons]
    omega

theorem dropBytes?_append : dropBytes? (byteLength a) (a ++ b) = some b := by
  induction a with
  | nil => exact dropBytes?_zero b
  | cons first rest ih =>
    obtain ⟨bytes, length, fits, left⟩ := exists_byteLength_cons first rest
    rw [length, List.cons_append, dropBytes?, if_pos fits, left, ih]

theorem takeBytes?_append : takeBytes? (byteLength a) (a ++ b) = some a := by
  induction a with
  | nil => rw [byteLength_nil, takeBytes?]
  | cons first rest ih =>
    obtain ⟨bytes, length, fits, left⟩ := exists_byteLength_cons first rest
    rw [length, List.cons_append, takeBytes?, if_pos fits, left, ih]
    rfl

theorem slice?_append : slice? (a ++ b ++ c) (byteLength a) (byteLength a + byteLength b) = some b := by
  rw [slice?, if_pos (Nat.le_add_right _ _), List.append_assoc, dropBytes?_append, Nat.add_sub_cancel_left,
    Option.bind_some, takeBytes?_append]

theorem minus?_add (m n : Nat) : minus? (m + n) n = some m := by
  rw [minus?, if_pos (Nat.le_add_left _ _), Nat.add_sub_cancel]

theorem lead?_eq (text : List Char) : lead? text = some (indentation text) := by
  rw [lead?, ← indentation_add_trimStart, minus?_add]

end DeviceConfig.Text
