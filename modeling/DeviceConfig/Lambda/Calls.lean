import DeviceConfig.Cpp.Name
import DeviceConfig.Text.Blank

/-!
The places of a lambda's body that stand for objects of the configuration: `id(name)`, with blanks
around the name, and a point after it where a member is meant.
-/

namespace DeviceConfig.Lambda

inductive Fragment where
  | text (chars : List Char)
  /-- The object of this name, with `access` a member of it. -/
  | object (name : String) (access : Bool)
  deriving Repr, DecidableEq

/-- A call at the start of a text, and the text after it. -/
structure Call where
  name : String
  access : Bool
  rest : List Char

/-- The text after a closing parenthesis, with the point that may follow it. -/
def endCall (name : List Char) : List Char → Option Call
  | ')' :: '.' :: rest => some ⟨String.ofList name, true, rest⟩
  | ')' :: rest => some ⟨String.ofList name, false, rest⟩
  | _ => none

/-- The call that a text starts with. -/
def call? : List Char → Option Call
  | 'i' :: 'd' :: '(' :: inside =>
    let start := Text.trimStart inside
    let name := start.takeWhile Cpp.isNameChar
    if name.head?.any Cpp.isNameStart then
      endCall name (Text.trimStart (start.dropWhile Cpp.isNameChar))
    else none
  | _ => none

theorem length_dropWhile_le {α : Type} (p : α → Bool) (l : List α) :
    (l.dropWhile p).length ≤ l.length := by
  induction l with
  | nil => simp
  | cons a l ih =>
    simp only [List.dropWhile_cons, List.length_cons]
    split
    · omega
    · simp

theorem length_rest_of_endCall {name text : List Char} {call : Call}
    (h : endCall name text = some call) : call.rest.length ≤ text.length := by
  unfold endCall at h
  split at h <;> simp_all
  all_goals (subst h; simp only; omega)

theorem length_rest_of_call? {text : List Char} {call : Call} (h : call? text = some call) :
    call.rest.length < text.length := by
  unfold call? at h
  split at h
  · rename_i inside
    simp only at h
    split at h
    · have closed := length_rest_of_endCall h
      have afterName := length_dropWhile_le Text.isBlank
        ((Text.trimStart inside).dropWhile Cpp.isNameChar)
      have name := length_dropWhile_le Cpp.isNameChar (Text.trimStart inside)
      have start := length_dropWhile_le Text.isBlank inside
      simp only [Text.trimStart, List.length_cons] at *
      omega
    · simp at h
  · simp at h

/-- Puts a character before the fragments of a text. -/
def addChar (c : Char) : List Fragment → List Fragment
  | .text chars :: rest => .text (c :: chars) :: rest
  | fragments => .text [c] :: fragments

def fragments (line : List Char) : List Fragment :=
  match _ : call? line with
  | some call => .object call.name call.access :: fragments call.rest
  | none =>
    match line with
    | [] => []
    | c :: rest => addChar c (fragments rest)
termination_by line.length
decreasing_by
  · exact length_rest_of_call? (by assumption)
  · simp

end DeviceConfig.Lambda
