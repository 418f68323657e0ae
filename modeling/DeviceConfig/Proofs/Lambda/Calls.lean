import DeviceConfig.Lambda.Calls
import DeviceConfig.Proofs.Program.Names
import Mathlib.Data.List.TakeWhile

/-!
Calls of `id` with the name of an object, as a program means them: blanks may stand between any two tokens. A call is
found by its shape (`findCall?_eq_some_iff`), and none starts inside of another (`findCall?_inside`).
-/

namespace DeviceConfig.Lambda

open Text

/-- The point after a call, if it stands for a member of the object. -/
def point (access : Bool) : List Char := if access then ['.'] else []

/-- What follows `id` and the gap before the parenthesis. -/
def argument (start : List Char) (name : String) (finish : List Char) (access : Bool) : List Char :=
  '(' :: (start ++ (name.toList ++ (finish ++ ')' :: point access)))

/-- The text is a call of `id` with this name, up to the point that may follow it; `rest` is what follows. -/
def IsCall (text rest : List Char) (name : String) (access : Bool) : Prop :=
  ∃ gap start finish, (∀ c ∈ gap ++ start ++ finish, isBlank c = true) ∧ Cpp.isName name = true ∧
    text = 'i' :: 'd' :: (gap ++ argument start name finish access) ∧ (access = false → rest.head? ≠ some '.')

theorem IsCall.follow {text rest other : List Char} {name : String} {access : Bool} (call : IsCall text rest name access)
    (points : other.head? = some '.' → rest.head? = some '.') : IsCall text other name access := by
  obtain ⟨gap, start, finish, blank, named, shape, noPoint⟩ := call
  exact ⟨gap, start, finish, blank, named, shape, fun none first => noPoint none (points first)⟩

/-- The call that a text starts with, whatever blanks stand between `id` and the parenthesis. -/
def findCall? : List Char → Option Call
  | 'i' :: 'd' :: after => call? ('i' :: 'd' :: trimStart after)
  | _ => none

section Shapes

variable {name text rest : List Char} {call : Call}

theorem endCall_eq_some_iff :
    endCall name text = some call ↔ text = ')' :: (point call.access ++ call.rest) ∧ call.name = String.ofList name ∧
      (call.access = false → call.rest.head? ≠ some '.') := by
  constructor
  · intro ended
    unfold endCall at ended
    split at ended
    · cases ended
      simp [point]
    · rename_i rest noPoint
      cases ended
      refine ⟨rfl, rfl, fun _ first => ?_⟩
      obtain ⟨later, whole⟩ := List.head?_eq_some_iff.mp first
      exact noPoint later whole
    · cases ended
  · obtain ⟨called, access, rest⟩ := call
    rintro ⟨rfl, rfl, noPoint⟩
    cases access with
    | true => rfl
    | false =>
      unfold endCall
      split
      · rename_i later same
        cases same
        exact absurd rfl (noPoint rfl)
      · rename_i same
        cases same
        rfl
      · rename_i other
        exact absurd rfl (other rest)

theorem exists_blanks_trimStart (text : List Char) :
    ∃ blanks, (∀ c ∈ blanks, isBlank c = true) ∧ text = blanks ++ trimStart text :=
  ⟨text.takeWhile isBlank, fun _ => List.mem_takeWhile_imp, List.takeWhile_append_dropWhile.symm⟩

theorem trimStart_blanks {blanks : List Char} (blank : ∀ c ∈ blanks, isBlank c = true)
    (visible : ∀ c ∈ rest.head?, isBlank c = false) : trimStart (blanks ++ rest) = rest := by
  rw [trimStart, List.dropWhile_append_of_pos blank]
  exact trimStart_of_head visible

theorem trimStart_mark {blanks : List Char} {mark : Char} (blank : ∀ c ∈ blanks, isBlank c = true)
    (visible : isBlank mark = false) (rest : List Char) : trimStart (blanks ++ mark :: rest) = mark :: rest := by
  refine trimStart_blanks blank ?_
  rintro c ⟨⟩
  exact visible

theorem takeWhile_append_stop {test : Char → Bool} {taken rest : List Char} (each : ∀ c ∈ taken, test c = true)
    (stop : ∀ c ∈ rest.head?, test c = false) :
    (taken ++ rest).takeWhile test = taken ∧ (taken ++ rest).dropWhile test = rest := by
  rw [List.takeWhile_append_of_pos each, List.dropWhile_append_of_pos each]
  cases rest with
  | nil => simp
  | cons c rest => simp [stop c rfl]

theorem isNameChar_of_isBlank {c : Char} (blank : isBlank c = true) : Cpp.isNameChar c = false := by
  cases named : Cpp.isNameChar c with
  | false => rfl
  | true =>
    rw [Cpp.isBlank_of_isNameChar named] at blank
    cases blank

theorem stop_of_blanks {blanks : List Char} {mark : Char} (blank : ∀ c ∈ blanks, isBlank c = true)
    (ends : Cpp.isNameChar mark = false) : ∀ c ∈ (blanks ++ mark :: rest).head?, Cpp.isNameChar c = false := by
  cases blanks with
  | nil =>
    rintro c ⟨⟩
    exact ends
  | cons first others =>
    rintro c ⟨⟩
    exact isNameChar_of_isBlank (blank _ (List.mem_cons_self ..))

/-- A call without a gap is found by the characters of its name and the blanks around it. -/
theorem call?_eq_some_iff :
    call? text = some call ↔ ∃ start finish, (∀ c ∈ start ++ finish, isBlank c = true) ∧ Cpp.isName call.name = true ∧
      text = 'i' :: 'd' :: (argument start call.name finish call.access ++ call.rest) ∧
      (call.access = false → call.rest.head? ≠ some '.') := by
  constructor
  · intro found
    unfold call? at found
    split at found
    · rename_i inside
      dsimp only at found
      split at found
      · rename_i named
        obtain ⟨ended, called, noPoint⟩ := endCall_eq_some_iff.mp found
        obtain ⟨start, blankStart, wholeStart⟩ := exists_blanks_trimStart inside
        obtain ⟨finish, blankFinish, wholeFinish⟩ :=
          exists_blanks_trimStart ((trimStart inside).dropWhile Cpp.isNameChar)
        refine ⟨start, finish, ?_, ?_, ?_, noPoint⟩
        · simpa [or_imp, forall_and] using ⟨blankStart, blankFinish⟩
        · rw [Cpp.isName_iff, called, String.toList_ofList]
          exact ⟨named, fun c => List.mem_takeWhile_imp⟩
        · have inner : inside = start ++ (call.name.toList ++ (finish ++ ')' :: (point call.access ++ call.rest))) := by
            rw [← ended, ← wholeFinish, called, String.toList_ofList, List.takeWhile_append_dropWhile, ← wholeStart]
          rw [inner]
          simp [argument]
      · cases found
    · cases found
  · obtain ⟨name, access, rest⟩ := call
    rintro ⟨start, finish, blank, named, rfl, noPoint⟩
    obtain ⟨blankStart, blankFinish⟩ := List.forall_mem_append.mp blank
    obtain ⟨first, each⟩ := Cpp.isName_iff.mp named
    have ends : endCall name.toList (')' :: (point access ++ rest)) = some ⟨name, access, rest⟩ :=
      endCall_eq_some_iff.mpr ⟨rfl, String.ofList_toList.symm, noPoint⟩
    have stop : ∀ c ∈ (finish ++ ')' :: (point access ++ rest)).head?, Cpp.isNameChar c = false :=
      stop_of_blanks blankFinish (by decide)
    have nameStarts : ∀ c ∈ (name.toList ++ (finish ++ ')' :: (point access ++ rest))).head?, isBlank c = false := by
      obtain ⟨c, start⟩ := Option.isSome_iff_exists.mp (Option.isSome_of_any first)
      rw [List.head?_append, start]
      rintro _ ⟨⟩
      exact Cpp.isBlank_of_isNameChar (each c (List.mem_of_mem_head? start))
    have afterStart := trimStart_blanks blankStart nameStarts
    obtain ⟨taken, dropped⟩ := takeWhile_append_stop each stop
    have afterFinish : trimStart (finish ++ ')' :: (point access ++ rest)) = ')' :: (point access ++ rest) :=
      trimStart_mark blankFinish (by decide) _
    have shape : 'i' :: 'd' :: (argument start name finish access ++ rest) =
        'i' :: 'd' :: '(' :: (start ++ (name.toList ++ (finish ++ ')' :: (point access ++ rest)))) := by
      simp [argument]
    rw [shape]
    simp only [call?, afterStart, taken, first, dropped, afterFinish, ends, if_true]

theorem trimStart_argument {gap : List Char} (blank : ∀ c ∈ gap, isBlank c = true) (start finish : List Char)
    (name : String) (access : Bool) (rest : List Char) :
    trimStart (gap ++ (argument start name finish access ++ rest)) = argument start name finish access ++ rest :=
  trimStart_mark blank (by decide) _

theorem findCall?_eq_some_iff :
    findCall? text = some call ↔ ∃ taken, text = taken ++ call.rest ∧ IsCall taken call.rest call.name call.access := by
  constructor
  · intro found
    unfold findCall? at found
    split at found
    · rename_i after
      obtain ⟨start, finish, blank, named, whole, noPoint⟩ := call?_eq_some_iff.mp found
      obtain ⟨gap, blankGap, wholeGap⟩ := exists_blanks_trimStart after
      have inner : trimStart after = argument start call.name finish call.access ++ call.rest := by simpa using whole
      refine ⟨'i' :: 'd' :: (gap ++ argument start call.name finish call.access), ?_,
        gap, start, finish, ?_, named, rfl, noPoint⟩
      · rw [wholeGap, inner]
        simp
      · rw [List.append_assoc]
        exact List.forall_mem_append.mpr ⟨blankGap, blank⟩
    · cases found
  · rintro ⟨taken, rfl, gap, start, finish, blank, named, rfl, noPoint⟩
    rw [List.append_assoc] at blank
    obtain ⟨blankGap, blankOthers⟩ := List.forall_mem_append.mp blank
    have shape : 'i' :: 'd' :: (gap ++ argument start call.name finish call.access) ++ call.rest =
        'i' :: 'd' :: (gap ++ (argument start call.name finish call.access ++ call.rest)) := by
      simp
    rw [shape, findCall?, trimStart_argument blankGap]
    exact call?_eq_some_iff.mpr ⟨start, finish, blankOthers, named, rfl, noPoint⟩

end Shapes

section Overlaps

theorem findCall?_of_head {text : List Char} (other : text.head? ≠ some 'i') : findCall? text = none := by
  unfold findCall?
  split
  · exact absurd rfl other
  · rfl

theorem findCall?_name {name finish rest : List Char} (named : ∀ c ∈ name, Cpp.isNameChar c = true)
    (blank : ∀ c ∈ finish, isBlank c = true) : findCall? (name ++ (finish ++ ')' :: rest)) = none := by
  cases found : findCall? (name ++ (finish ++ ')' :: rest)) with
  | none => rfl
  | some call =>
    exfalso
    obtain ⟨_, whole, gap, start, finish', blanks, -, rfl, -⟩ := findCall?_eq_some_iff.mp found
    have blankGap : ∀ c ∈ gap, isBlank c = true := fun c member => blanks c (by simp [member])
    -- behind the name and the blanks stands the closing parenthesis; a call would need the opening one there
    have left : trimStart ((name ++ (finish ++ ')' :: rest)).dropWhile Cpp.isNameChar) = ')' :: rest := by
      rw [(takeWhile_append_stop named (stop_of_blanks blank (by decide))).2]
      exact trimStart_mark blank (by decide) rest
    have gapStops : ∀ c ∈ (gap ++ (argument start call.name finish' call.access ++ call.rest)).head?, Cpp.isNameChar c = false :=
      stop_of_blanks blankGap (by decide)
    have both : ∀ c ∈ ['i', 'd'], Cpp.isNameChar c = true := List.all_eq_true.mp rfl
    have right := trimStart_argument blankGap start finish' call.name call.access call.rest
    have shape : name ++ (finish ++ ')' :: rest) =
        ['i', 'd'] ++ (gap ++ (argument start call.name finish' call.access ++ call.rest)) := by
      rw [whole]
      simp
    rw [shape, (takeWhile_append_stop both gapStops).2, right] at left
    cases left

theorem suffix_append_cases {first second text : List Char} (suffix : text <:+ first ++ second) :
    text <:+ second ∨ ∃ part, part ≠ [] ∧ part <:+ first ∧ text = part ++ second := by
  induction first with
  | nil => exact .inl suffix
  | cons c rest ih =>
    rcases List.suffix_cons_iff.mp suffix with rfl | inner
    · exact .inr ⟨c :: rest, by simp, List.suffix_rfl, rfl⟩
    · rcases ih inner with later | ⟨part, some, within, same⟩
      · exact .inl later
      · exact .inr ⟨part, some, within.trans (List.suffix_cons c rest), same⟩

theorem findCall?_blanks {blanks part : List Char} (blank : ∀ c ∈ blanks, isBlank c = true) (some : part ≠ [])
    (within : part <:+ blanks) (rest : List Char) : findCall? (part ++ rest) = none := by
  obtain ⟨c, others, rfl⟩ := List.exists_cons_of_ne_nil some
  refine findCall?_of_head fun first => ?_
  have blankFirst := blank c (within.subset (List.mem_cons_self ..))
  cases first
  revert blankFirst
  decide

/-- No call starts inside of another one. -/
theorem IsCall.findCall?_inside {first second rest : List Char} {name : String} {access : Bool}
    (call : IsCall (first ++ second) rest name access) (begun : first ≠ []) (some : second ≠ []) :
    findCall? (second ++ rest) = none := by
  obtain ⟨gap, start, finish, blank, named, whole, -⟩ := call
  rw [List.append_assoc] at blank
  obtain ⟨blankGap, blankOthers⟩ := List.forall_mem_append.mp blank
  obtain ⟨blankStart, blankFinish⟩ := List.forall_mem_append.mp blankOthers
  obtain ⟨-, each⟩ := Cpp.isName_iff.mp named
  obtain ⟨c, before, rfl⟩ := List.exists_cons_of_ne_nil begun
  have inner : before ++ second = 'd' :: (gap ++ argument start name finish access) := (List.cons.inj whole).2
  have suffix : second <:+ 'd' :: (gap ++ argument start name finish access) := ⟨before, inner⟩
  -- the part of the call that `second` starts in
  rcases List.suffix_cons_iff.mp suffix with rfl | suffix
  · exact findCall?_of_head (by simp)
  rcases suffix_append_cases suffix with suffix | ⟨part, visible, within, rfl⟩
  case inr =>
    rw [List.append_assoc]
    exact findCall?_blanks blankGap visible within _
  rcases List.suffix_cons_iff.mp suffix with rfl | suffix
  · exact findCall?_of_head (by simp)
  rcases suffix_append_cases suffix with suffix | ⟨part, visible, within, rfl⟩
  case inr =>
    rw [List.append_assoc]
    exact findCall?_blanks blankStart visible within _
  rcases suffix_append_cases suffix with suffix | ⟨part, visible, within, rfl⟩
  case inr =>
    have namedPart : ∀ c ∈ part, Cpp.isNameChar c = true := fun c member => each c (within.subset member)
    have shape : part ++ (finish ++ ')' :: point access) ++ rest = part ++ (finish ++ ')' :: (point access ++ rest)) := by simp
    rw [shape]
    exact findCall?_name namedPart blankFinish
  rcases suffix_append_cases suffix with suffix | ⟨part, visible, within, rfl⟩
  case inr =>
    rw [List.append_assoc]
    exact findCall?_blanks blankFinish visible within _
  rcases List.suffix_cons_iff.mp suffix with rfl | suffix
  · exact findCall?_of_head (by simp)
  · have last : second = ['.'] := by
      cases access <;> simp_all [point, List.suffix_cons_iff]
    rw [last]
    exact findCall?_of_head (by simp)

end Overlaps

end DeviceConfig.Lambda
