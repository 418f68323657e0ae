import DeviceConfig.CppType.Basic
import DeviceConfig.Text.Blank
import DeviceConfig.Text.Search

/-!
Reading a type as it is written in the header of an embedded lambda. Only known types are read.
-/

namespace DeviceConfig.CppType

/-- The text cut at the commas that stand outside angle brackets, when the brackets match. `depth`
    is the number of open brackets. -/
def splitArgs? (depth : Nat) : List Char → Option (List (List Char))
  | [] => if depth = 0 then some [[]] else none
  | c :: rest =>
    if c = ',' ∧ depth = 0 then (splitArgs? 0 rest).map ([] :: ·)
    else
      let depth? :=
        if c = '<' then some (depth + 1)
        else if c = '>' then if depth = 0 then none else some (depth - 1)
        else some depth
      match depth? with
      | none => none
      | some depth =>
        match splitArgs? depth rest with
        | some (part :: parts) => some ((c :: part) :: parts)
        | _ => none

theorem length_le_of_mem_splitArgs? {depth : Nat} {text part : List Char}
    {parts : List (List Char)} (split : splitArgs? depth text = some parts)
    (member : part ∈ parts) : part.length ≤ text.length := by
  induction text generalizing depth parts part with
  | nil =>
    simp only [splitArgs?] at split
    split at split
    · cases split
      simp_all
    · cases split
  | cons c rest ih =>
    simp only [splitArgs?] at split
    split at split
    · obtain ⟨tail, found, rfl⟩ := Option.map_eq_some_iff.mp split
      rcases List.mem_cons.mp member with rfl | member
      · simp
      · have := ih found member
        simp only [List.length_cons]
        omega
    · split at split
      · cases split
      · rename_i opened _
        split at split
        · rename_i first others found
          cases split
          rcases List.mem_cons.mp member with rfl | member
          · have := ih found (List.mem_cons_self ..)
            simp only [List.length_cons]
            omega
          · have := ih found (List.mem_cons_of_mem _ member)
            simp only [List.length_cons]
            omega
        · cases split

/-- A known type without arguments; runs of blanks count as one space. -/
def plain? (text : List Char) : Option CppType :=
  let name := String.intercalate " " ((Text.words text).map String.ofList)
  if scalars.contains name || classes.any (·.1 == name) then some (named name) else none

theorem length_trim_le (text : List Char) : (Text.trim text).length ≤ text.length := by
  have start : (Text.trimStart text).length ≤ text.length :=
    (List.dropWhile_suffix _).length_le
  have finish : (Text.trimEnd (Text.trimStart text)).length ≤ (Text.trimStart text).length := by
    have := (List.dropWhile_suffix (l := (Text.trimStart text).reverse) Text.isBlank).length_le
    simpa [Text.trimEnd] using this
  exact Nat.le_trans finish start

theorem length_cutAtChar? {mark : Char} {text before after : List Char}
    (cut : Text.cutAtChar? mark text = some (before, after)) :
    before.length + after.length + 1 = text.length := by
  induction text generalizing before with
  | nil => cases cut
  | cons c rest ih =>
    simp only [Text.cutAtChar?] at cut
    split at cut
    · cases cut
      simp
    · obtain ⟨⟨inner, tail⟩, found, same⟩ := Option.map_eq_some_iff.mp cut
      cases same
      have := ih found
      simp only [List.length_cons] at this ⊢
      omega

/-- Reads a type: a star at the end makes a pointer, once; what stands in angle brackets after the
    name of a container are its arguments. -/
def read? (text : List Char) : Option CppType :=
  let trimmed := Text.trim text
  match _last : trimmed.getLast? with
  | none => none
  | some final =>
    if final = '*' then
      match read? trimmed.dropLast with
      | some inner => if inner.isPointer then none else some inner.pointer
      | none => none
    else
      match _cut : Text.cutAtChar? '<' trimmed with
      | none => plain? trimmed
      | some (before, after) =>
        if final ≠ '>' then none
        else
          let base := String.ofList (Text.trim before)
          if !containers.contains base then none
          else
            match _split : splitArgs? 0 after.dropLast with
            | none => none
            | some parts =>
              match parts.attach.mapM fun (part : { part // part ∈ parts }) => read? part.val with
              | none => none
              | some args => some ((named base).template args)
termination_by text.length
decreasing_by
  · have bound := length_trim_le text
    have nonempty : trimmed ≠ [] := by
      intro empty
      rw [empty] at _last
      cases _last
    have positive : 0 < (Text.trim text).length := List.length_pos_iff.mpr nonempty
    simp only [List.length_dropLast]
    omega
  · have bound : trimmed.length ≤ text.length := length_trim_le text
    have cutLength := length_cutAtChar? _cut
    have fits := length_le_of_mem_splitArgs? _split part.property
    simp only [List.length_dropLast] at fits
    omega

def ofText? (text : String) : Option CppType := read? text.toList

end DeviceConfig.CppType
