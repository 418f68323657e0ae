import DeviceConfig.CppType.Reader
import DeviceConfig.Proofs.Lists
import DeviceConfig.Proofs.Text.Blank

/-!
Which types are read: what is read is well formed (`wellFormed_of_read?`).
-/

namespace DeviceConfig.CppType

open Text

/-- The types that are known without arguments. -/
def knownNames : List String := scalars ++ classes.map (·.1)

/-- A known name alone, or a container of at least one well-formed type; either can be a pointer. -/
inductive WellFormed : CppType → Prop
  | plain (name : String) (isPointer : Bool) (known : name ∈ knownNames) : WellFormed (mk name [] isPointer)
  | container (name : String) (args : List CppType) (isPointer : Bool) (known : name ∈ containers) (some : args ≠ [])
      (each : ∀ arg ∈ args, WellFormed arg) : WellFormed (mk name args isPointer)

theorem WellFormed.pointer {type : CppType} (wellFormed : type.WellFormed) : type.pointer.WellFormed := by
  cases wellFormed with
  | plain name _ known => exact .plain name true known
  | container name args _ known some each => exact .container name args true known some each

theorem mapM_eq_some_iff {α β : Type} {read : α → Option β} {items : List α} {results : List β} :
    items.mapM read = some results ↔ List.Forall₂ (fun item result => read item = some result) items results := by
  induction items generalizing results with
  | nil =>
    rw [List.forall₂_nil_left_iff, List.mapM_nil]
    exact ⟨fun same => (Option.some.inj same).symm, fun same => congrArg some same.symm⟩
  | cons item rest ih =>
    simp only [List.mapM_cons, Option.bind_eq_bind, Option.bind_eq_some_iff, List.forall₂_cons_left_iff, ih]
    constructor
    · rintro ⟨first, here, others, later, same⟩
      cases same
      exact ⟨first, others, here, later, rfl⟩
    · rintro ⟨first, others, here, later, rfl⟩
      exact ⟨first, here, others, later, rfl⟩

theorem read?_eq (text : List Char) :
    read? text =
      match (trim text).getLast? with
      | none => none
      | some final =>
        if final = '*' then
          (read? (trim text).dropLast).bind fun inner => if inner.isPointer then none else some inner.pointer
        else
          match cutAtChar? '<' (trim text) with
          | none => plain? (trim text)
          | some (before, after) =>
            if final ≠ '>' then none
            else if !containers.contains (String.ofList (trim before)) then none
            else
              (splitArgs? 0 after.dropLast).bind fun parts =>
                (parts.mapM read?).map fun args => (named (String.ofList (trim before))).template args := by
  rw [read?]
  cases (trim text).getLast? with
  | none => rfl
  | some final =>
    dsimp only
    by_cases star : final = '*'
    · simp only [star, if_true]
      cases read? (trim text).dropLast with
      | none => rfl
      | some inner => rfl
    · simp only [star, if_false]
      cases cutAtChar? '<' (trim text) with
      | none => rfl
      | some parts =>
        obtain ⟨before, after⟩ := parts
        dsimp only
        split
        · rfl
        · split
          · rfl
          · cases splitArgs? 0 after.dropLast with
            | none => rfl
            | some parts =>
              dsimp only
              -- the membership proofs serve termination alone
              rw [Option.bind_some, List.mapM_subtype (g := read?) fun _ _ => rfl, List.unattach_attach]
              cases parts.mapM read? with
              | none => rfl
              | some args => rfl

section Soundness

variable {text : List Char} {type : CppType}

theorem exists_name_of_plain? (read : plain? text = some type) : ∃ name ∈ knownNames, type = named name := by
  simp only [plain?] at read
  split at read
  · rename_i known
    cases read
    refine ⟨_, ?_, rfl⟩
    rcases Bool.or_eq_true_iff.mp known with scalar | isClass
    · exact List.mem_append_left _ (List.contains_iff_mem.mp scalar)
    · obtain ⟨found, member, same⟩ := List.any_eq_true.mp isClass
      exact List.mem_append_right _ (List.mem_map.mpr ⟨found, member, eq_of_beq same⟩)
  · cases read

theorem splitArgs?_ne_nil {depth : Nat} {parts : List (List Char)} (split : splitArgs? depth text = some parts) :
    parts ≠ [] := by
  cases text with
  | nil =>
    simp only [splitArgs?] at split
    split at split
    · cases split
      simp
    · cases split
  | cons c rest =>
    simp only [splitArgs?] at split
    split at split
    · obtain ⟨_, -, rfl⟩ := Option.map_eq_some_iff.mp split
      simp
    · split at split
      · cases split
      · split at split
        · cases split
          simp
        · cases split

theorem wellFormed_of_read? (read : read? text = some type) : type.WellFormed := by
  fun_induction read? text generalizing type with
  | case3 text trimmed inner held _ _ =>
    rename_i ih
    cases read
    exact (ih held).pointer
  | case5 text trimmed final _ _ =>
    obtain ⟨name, known, rfl⟩ := exists_name_of_plain? read
    exact .plain name false known
  | case10 text trimmed final _ _ before after _ _ base known parts split args held =>
    rename_i ih
    cases read
    have each : List.Forall₂ (fun part arg => read? part.val = some arg) parts.attach args :=
      mapM_eq_some_iff.mp held
    refine .container base args false ?_ ?_ ?_
    · simpa using known
    · rintro rfl
      exact splitArgs?_ne_nil split (by simpa using List.forall₂_nil_right_iff.mp each)
    · intro arg member
      obtain ⟨part, -, same⟩ := exists_mem_left_of_forall₂ each member
      exact ih part same
  | _ => cases read

end Soundness

end DeviceConfig.CppType
