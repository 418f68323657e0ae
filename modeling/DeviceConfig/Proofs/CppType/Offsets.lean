import DeviceConfig.Proofs.CppType.Printing
import DeviceConfig.Proofs.Text.Slices

/-!
Types read by byte offsets, with every cut and every difference checked. No check fails, and a text of a given length is
read in as many levels (`readWithin?_eq`).
-/

namespace DeviceConfig.CppType

open Text
open Lambda (dropBytes?)

/-- The parts of `text` between the commas outside brackets, from the one that begins at `start`, if the brackets match.
    The scan stands at `place` and before `rest`. -/
def partsFrom? (text : List Char) (depth start place : Nat) : List Char → Option (Option (List (List Char)))
  | [] => if depth = 0 then (dropBytes? start text).map fun last => some [last] else some none
  | c :: rest =>
    let after := place + c.utf8Size
    if c = '<' then partsFrom? text (depth + 1) start after rest
    else if c = '>' then if depth = 0 then some none else partsFrom? text (depth - 1) start after rest
    else if c = ',' ∧ depth = 0 then do
      let part ← slice? text start place
      let later ← partsFrom? text depth (place + 1) after rest
      return later.map (part :: ·)
    else partsFrom? text depth start after rest

/-- The types of the parts, read one after the other until one is not known. -/
def readParts? (read : List Char → Option (Option CppType)) : List (List Char) → Option (Option (List CppType))
  | [] => some (some [])
  | part :: rest => do
    match ← read part with
    | none => return none
    | some type => return (← readParts? read rest).map (type :: ·)

/-- A type is read in at most so many levels of nesting. -/
def readWithin? : Nat → List Char → Option (Option CppType)
  | 0, _ => none
  | levels + 1, text => do
    let trimmed := trim text
    if trimmed.getLast? = some '*' then
      return (← readWithin? levels trimmed.dropLast).bind fun inner =>
        if inner.isPointer then none else some inner.pointer
    else
      match cutAtChar? '<' trimmed with
      | none => return plain? trimmed
      | some (before, _) =>
        if trimmed.getLast? ≠ some '>' then return none
        else
          let angle := byteLength before
          let base := String.ofList (trim (← slice? trimmed 0 angle))
          if !containers.contains base then return none
          else
            let last ← minus? (byteLength trimmed) 1
            let inside ← slice? trimmed (angle + 1) last
            match ← partsFrom? inside 0 0 0 inside with
            | none => return none
            | some parts => return (← readParts? (readWithin? levels) parts).map (named base).template

/-- Checked reading of a type. -/
def readChecked? (text : List Char) : Option (Option CppType) := readWithin? (text.length + 1) text

theorem map_modifyHead_nil (split : Option (List (List Char))) : split.map (List.modifyHead ([] ++ ·)) = split := by
  cases split with
  | none => rfl
  | some parts => cases parts <;> rfl

/-- The parts are those between the commas, and each is where the scan left it. -/
theorem partsFrom?_eq {text before part rest : List Char} {depth : Nat} (whole : text = before ++ part ++ rest) :
    partsFrom? text depth (byteLength before) (byteLength before + byteLength part) rest =
      some ((splitArgs? depth rest).map (List.modifyHead (part ++ ·))) := by
  induction rest generalizing before part depth with
  | nil =>
    rw [List.append_nil] at whole
    rw [partsFrom?, splitArgs?, whole, dropBytes?_append]
    split <;> simp
  | cons c rest ih =>
    -- a character that does not cut belongs to the part
    have step {inner : Nat} (stays : ¬(c = ',' ∧ depth = 0))
        (moves : (if c = '<' then some (depth + 1) else if c = '>' then if depth = 0 then none else some (depth - 1)
          else some depth) = some inner) :
        partsFrom? text inner (byteLength before) (byteLength before + byteLength part + c.utf8Size) rest =
          some ((splitArgs? depth (c :: rest)).map (List.modifyHead (part ++ ·))) := by
      have next : text = before ++ (part ++ [c]) ++ rest := by simp [whole]
      have later := @ih before (part ++ [c]) inner next
      rw [byteLength_append, byteLength_cons, byteLength_nil, Nat.add_zero, ← Nat.add_assoc] at later
      rw [later, splitArgs?_cons stays moves]
      simp [Function.comp_def, List.modifyHead_modifyHead]
    rw [partsFrom?]
    split
    · rename_i opens
      exact step (by simp [opens]) (by simp [opens])
    split
    · rename_i closes
      split
      · rename_i outer
        simp [splitArgs?, closes, outer]
      · rename_i deep
        exact step (by simp [deep]) (by simp [closes, deep])
    split
    · rename_i comma
      obtain ⟨rfl, rfl⟩ := comma
      have cut : slice? text (byteLength before) (byteLength before + byteLength part) = some part := by
        rw [whole]
        exact slice?_append before part _
      have next : text = (before ++ part ++ [',']) ++ [] ++ rest := by simp [whole]
      have later := @ih (before ++ part ++ [',']) [] 0 next
      have places : byteLength (before ++ part ++ [',']) = byteLength before + byteLength part + 1 := by
        rw [byteLength_append, byteLength_append]
        rfl
      rw [places, byteLength_nil, Nat.add_zero, map_modifyHead_nil] at later
      have narrow : ','.utf8Size = 1 := rfl
      rw [cut, narrow, later, splitArgs?_comma]
      simp [Function.comp_def]
    · rename_i noOpen noClose stays
      exact step stays (by simp [noOpen, noClose])

theorem readParts?_eq {read : List Char → Option (Option CppType)} {parts : List (List Char)}
    (each : ∀ part ∈ parts, read part = some (read? part)) : readParts? read parts = some (parts.mapM read?) := by
  induction parts with
  | nil => rfl
  | cons part rest ih =>
    obtain ⟨here, later⟩ := List.forall_mem_cons.mp each
    rw [readParts?, here, ih later, List.mapM_cons]
    cases read? part with
    | none => rfl
    | some type => cases rest.mapM read? <;> rfl

/-- Where the name of a template and its arguments stand. -/
theorem slices_around_angle {text before inside : List Char} (whole : text = before ++ '<' :: inside ++ ['>']) :
    slice? text 0 (byteLength before) = some before ∧
    minus? (byteLength text) 1 = some (byteLength before + 1 + byteLength inside) ∧
    slice? text (byteLength before + 1) (byteLength before + 1 + byteLength inside) = some inside := by
  have grouped : text = (before ++ ['<']) ++ inside ++ ['>'] := by simp [whole]
  have opened : byteLength (before ++ ['<']) = byteLength before + 1 := by rw [byteLength_append]; rfl
  refine ⟨?_, ?_, ?_⟩
  · have found := slice?_append [] before ('<' :: inside ++ ['>'])
    rwa [List.nil_append, byteLength_nil, Nat.zero_add, ← List.append_assoc, ← whole] at found
  · rw [grouped, byteLength_append, byteLength_append, opened]
    exact minus?_add _ 1
  · rw [grouped, ← opened]
    exact slice?_append _ _ _

/-- No check fails, if there are more levels than characters. -/
theorem readWithin?_eq {levels : Nat} {text : List Char} (enough : text.length < levels) :
    readWithin? levels text = some (read? text) := by
  -- each level takes a star or two brackets away, so that a text is shorter than the one it stands in
  induction levels generalizing text with
  | zero => exact absurd enough (Nat.not_lt_zero _)
  | succ levels ih =>
    have trimmed : (trim text).length ≤ text.length := length_trim_le text
    rw [readWithin?, read?_eq]
    dsimp only
    cases last : (trim text).getLast? with
    | none =>
      rw [List.getLast?_eq_none_iff.mp last]
      rfl
    | some final =>
      have visible : trim text ≠ [] := by
        intro none
        rw [none] at last
        cases last
      have positive : 0 < (trim text).length := List.length_pos_iff.mpr visible
      by_cases star : final = '*'
      · have inner : readWithin? levels (trim text).dropLast = some (read? (trim text).dropLast) :=
          ih (by rw [List.length_dropLast]; omega)
        simp [star, inner]
      · simp only [Option.some.injEq, star, if_false]
        cases cut : cutAtChar? '<' (trim text) with
        | none => rfl
        | some parts =>
          obtain ⟨before, after⟩ := parts
          by_cases close : final = '>'
          · rw [close] at last
            have whole := eq_of_cut_angle cut last
            obtain ⟨name, closed, inside⟩ := slices_around_angle whole
            have parts : partsFrom? after.dropLast 0 0 0 after.dropLast = some (splitArgs? 0 after.dropLast) := by
              have cut := @partsFrom?_eq after.dropLast [] [] after.dropLast 0 rfl
              rwa [map_modifyHead_nil] at cut
            have short : after.dropLast.length + 2 ≤ text.length := by
              have length := congrArg List.length whole
              simp only [List.length_append, List.length_cons, List.length_nil] at length
              omega
            simp only [Option.bind_eq_bind, name, closed, inside, parts, Option.bind_some, close, ne_eq,
              not_true_eq_false, if_false]
            split
            · rfl
            · cases split : splitArgs? 0 after.dropLast with
              | none => rfl
              | some parts =>
                have each : ∀ part ∈ parts, readWithin? levels part = some (read? part) := by
                  intro part member
                  have fits := length_le_of_mem_splitArgs? split member
                  exact ih (by omega)
                simp only [readParts?_eq each, Option.bind_some]
                rfl
          · simp [close]

theorem readChecked?_eq (text : List Char) : readChecked? text = some (read? text) :=
  readWithin?_eq (Nat.lt_succ_self _)

end DeviceConfig.CppType
