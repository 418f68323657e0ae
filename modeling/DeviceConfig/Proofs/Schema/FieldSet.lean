import DeviceConfig.Proofs.Schema.Combinators

/-!
What the check of a mapping makes of it. The outcome of each key and of each missing field is one problem
or one entry, so a mapping is accepted exactly if all of them are entries
(`FieldSet.check_eq_ok_iff`); `FieldSet.check_gives` tells where each entry of the result comes from.
-/

namespace DeviceConfig

def Presence.isOptional : Presence → Bool
  | optional => true
  | _ => false

namespace FieldSet

section Fields

variable {σ : Type} {key : String} {fields : List (Field σ)} {field : Field σ}

theorem find?_mem (found : find? key fields = some field) : field ∈ fields ∧ field.key = key := by
  induction fields with
  | nil => cases found
  | cons first rest ih =>
    rw [find?] at found
    split at found
    · rename_i same
      cases found
      exact ⟨List.mem_cons_self .., same⟩
    · obtain ⟨member, same⟩ := ih found
      exact ⟨List.mem_cons_of_mem _ member, same⟩

theorem find?_of_mem (differ : (fields.map (·.key)).Nodup) (member : field ∈ fields) :
    find? field.key fields = some field := by
  induction fields with
  | nil => cases member
  | cons first rest ih =>
    obtain ⟨absent, others⟩ := List.nodup_cons.mp differ
    rw [find?]
    rcases List.mem_cons.mp member with rfl | inRest
    · rw [if_pos rfl]
    · have other : first.key ≠ field.key := by
        intro same
        have held : field.key ∈ rest.map (·.key) := List.mem_map_of_mem inRest
        rw [← same] at held
        exact absent held
      rw [if_neg other]
      exact ih others inRest

end Fields

namespace Outcome

theorem all_append (outcomes others : List Outcome) :
    all (outcomes ++ others) = (all outcomes).append (all others) := by
  induction outcomes with
  | nil => rfl
  | cons first rest ih => simp [all, append, ih]

/-- An outcome that is one entry, or has a problem. -/
def IsSingle (outcome : Outcome) : Prop :=
  outcome.problems ≠ [] ∨ ∃ entry : String × Value, outcome = .entry entry.1 entry.2

theorem isSingle_ofChecked (key : String) (path : Path) (checked : Checked) :
    (ofChecked key path checked).IsSingle := by
  cases checked with
  | ok value => exact .inr ⟨(key, value), rfl⟩
  | error problems => exact .inl (by simp [ofChecked, problem])

theorem isSingle_problem (p : Problem) : (problem p).IsSingle := .inl (by simp [problem])

theorem isSingle_entry (key : String) (value : Value) : (entry key value).IsSingle :=
  .inr ⟨(key, value), rfl⟩

theorem all_map_eq_iff {α : Type} {outcomeOf : α → Outcome} {xs : List α}
    (single : ∀ x ∈ xs, (outcomeOf x).IsSingle) {entries : Entries Value} :
    all (xs.map outcomeOf) = ⟨[], entries⟩ ↔
      List.Forall₂ (fun x entry => outcomeOf x = .entry entry.1 entry.2) xs entries := by
  induction xs generalizing entries with
  | nil => simp [all, none, eq_comm]
  | cons x rest ih =>
    have others := @ih fun y member => single y (List.mem_cons_of_mem _ member)
    rw [List.map_cons, all, List.forall₂_cons_left_iff]
    rcases single x (List.mem_cons_self ..) with bad | ⟨first, same⟩
    · constructor
      · intro together
        simp only [append, mk.injEq, List.append_eq_nil_iff] at together
        exact absurd together.1.1 bad
      · rintro ⟨entry, others, same, -, -⟩
        exact absurd (by rw [same]; rfl) bad
    · rw [same]
      constructor
      · intro together
        simp only [append, entry, mk.injEq, List.nil_append] at together
        obtain ⟨clean, rfl⟩ := together
        exact ⟨first, (all (rest.map outcomeOf)).entries, rfl, others.mp (by rw [← clean]), rfl⟩
      · rintro ⟨entry, tail, same, related, rfl⟩
        rw [others.mpr related]
        simp only [Outcome.entry, mk.injEq, true_and, List.cons.injEq, and_true] at same
        simp only [append, Outcome.entry, List.nil_append, mk.injEq, true_and]
        rw [same]
        rfl

end Outcome

section Check

variable {set : FieldSet Check} {path : Path} {entries : Entries Value}

/-- The fields that are filled in where the mapping lacks them. -/
def filled {σ : Type} (set : FieldSet σ) (entries : Entries Value) : List (Field σ) :=
  (set.fields.filter fun field => !Entries.contains field.key entries).filter fun field =>
    !field.presence.isOptional

theorem mem_filled {σ : Type} {set : FieldSet σ} {field : Field σ} :
    field ∈ set.filled entries ↔
      field ∈ set.fields ∧ field.key ∉ Entries.keys entries ∧ field.presence.isOptional = false := by
  simp only [filled, List.mem_filter, Bool.not_eq_true', and_assoc]
  rw [← Bool.not_eq_true, Entries.contains_iff_mem_keys]

theorem isSingle_checkEntry (key : String) (value : Value) :
    (checkEntry set path key value).IsSingle := by
  unfold checkEntry
  split
  · exact Outcome.isSingle_ofChecked ..
  · split
    · exact Outcome.isSingle_entry ..
    · exact Outcome.isSingle_problem ..

theorem isSingle_fillField {field : Field Check} (expected : field.presence.isOptional = false) :
    (fillField path field).IsSingle := by
  unfold fillField
  cases presence : field.presence with
  | required => exact Outcome.isSingle_problem ..
  | optional => rw [presence] at expected; cases expected
  | default value => exact Outcome.isSingle_ofChecked ..
  | generatedId type => exact Outcome.isSingle_entry ..

theorem all_fillField (fields : List (Field Check)) :
    Outcome.all (fields.map (fillField path)) =
      Outcome.all ((fields.filter fun field => !field.presence.isOptional).map (fillField path)) := by
  induction fields with
  | nil => rfl
  | cons field rest ih =>
    cases presence : field.presence with
    | optional =>
      have nothing : fillField path field = .none := by rw [fillField, presence]
      rw [List.map_cons, Outcome.all, nothing, ih, List.filter_cons_of_neg (by simp [presence,
        Presence.isOptional])]
      rfl
    | _ =>
      rw [List.filter_cons_of_pos (by simp [presence, Presence.isOptional])]
      simp only [List.map_cons, Outcome.all, ih]

theorem problems_checkGroup {group : List String} :
    (checkGroup path entries group).problems = [] ↔ (presentKeys group entries).length ≤ 1 := by
  unfold checkGroup
  by_cases twice : 1 < (presentKeys group entries).length
  · simp [twice, Outcome.problem, Nat.not_le.mpr twice]
  · simp [twice, Outcome.none, Nat.not_lt.mp twice]

theorem entries_checkGroup (group : List String) : (checkGroup path entries group).entries = [] := by
  unfold checkGroup
  simp only
  split <;> rfl

theorem entries_all_checkGroup (groups : List (List String)) :
    (Outcome.all (groups.map (checkGroup path entries))).entries = [] := by
  induction groups with
  | nil => rfl
  | cons group rest ih =>
    rw [List.map_cons, Outcome.all, Outcome.append, entries_checkGroup, ih]
    rfl

theorem problems_all_checkGroup (groups : List (List String)) :
    (Outcome.all (groups.map (checkGroup path entries))).problems = [] ↔
      ∀ group ∈ groups, (presentKeys group entries).length ≤ 1 := by
  induction groups with
  | nil => simp [Outcome.all, Outcome.none]
  | cons group rest ih =>
    rw [List.map_cons, Outcome.all, Outcome.append, List.append_eq_nil_iff, problems_checkGroup, ih,
      List.forall_mem_cons]

theorem checkEntries_eq :
    checkEntries set path entries =
      ((Outcome.all (set.exclusive.map (checkGroup path entries))).append
        (Outcome.all (entries.map fun entry => checkEntry set path entry.1 entry.2))).append
        (Outcome.all ((set.filled entries).map (fillField path))) := by
  simp only [checkEntries]
  rw [Outcome.all_append, Outcome.all_append, all_fillField]
  rfl

/-- A mapping is accepted exactly if no group of exclusive keys is met twice, each of its keys gives an
    entry and so does each field that is filled in. -/
theorem check_eq_ok_iff {result : Value} :
    set.check ⟨path, .map entries⟩ = .ok result ↔
      (∀ group ∈ set.exclusive, (presentKeys group entries).length ≤ 1) ∧
      ∃ kept added, result = .map (kept ++ added) ∧
        List.Forall₂ (fun before after : String × Value =>
          checkEntry set path before.1 before.2 = .entry after.1 after.2) entries kept ∧
        List.Forall₂ (fun field entry => fillField path field = .entry entry.1 entry.2)
          (set.filled entries) added := by
  have groups : _ ↔ ∀ group ∈ set.exclusive, (presentKeys group entries).length ≤ 1 :=
    @problems_all_checkGroup path entries set.exclusive
  have noEntries := @entries_all_checkGroup path entries set.exclusive
  have keep : ∀ {kept}, _ ↔ _ := @Outcome.all_map_eq_iff _ (fun entry : String × Value =>
    checkEntry set path entry.1 entry.2) entries fun entry _ => isSingle_checkEntry ..
  have fill : ∀ {added}, _ ↔ _ := @Outcome.all_map_eq_iff _ (fillField path) (set.filled entries)
    fun field member => isSingle_fillField (mem_filled.mp member).2.2
  have whole := @checkEntries_eq set path entries
  generalize Outcome.all (set.exclusive.map (checkGroup path entries)) = first at groups noEntries whole
  generalize Outcome.all (entries.map fun entry => checkEntry set path entry.1 entry.2) = second
    at keep whole
  generalize Outcome.all ((set.filled entries).map (fillField path)) = third at fill whole
  obtain ⟨firstProblems, firstEntries⟩ := first
  obtain ⟨secondProblems, secondEntries⟩ := second
  obtain ⟨thirdProblems, thirdEntries⟩ := third
  simp only at groups noEntries keep fill
  subst noEntries
  simp only [Outcome.append, List.nil_append] at whole
  simp only [check, whole, ← groups, List.isEmpty_iff, List.append_eq_nil_iff]
  constructor
  · intro accepted
    split at accepted
    · rename_i clean
      obtain ⟨⟨none, rfl⟩, rfl⟩ := clean
      cases accepted
      exact ⟨none, secondEntries, thirdEntries, rfl, keep.mp rfl, fill.mp rfl⟩
    · cases accepted
  · rintro ⟨none, kept, added, rfl, keeps, fills⟩
    cases keep.mpr keeps
    cases fill.mpr fills
    rw [if_pos ⟨⟨none, rfl⟩, rfl⟩]

/-- Where an entry of the normal form of a mapping comes from. -/
inductive Origin (set : FieldSet Check) (entries : Entries Value) : String × Value → Prop where
  | checked {key : String} {before value : Value} {field : Field Check} :
    (key, before) ∈ entries → find? key set.fields = some field →
    field.expected.Gives before value → Origin set entries (key, value)
  | extra {key : String} {value : Value} :
    (key, value) ∈ entries → find? key set.fields = none → set.allowsExtra = true →
    Origin set entries (key, value)
  | default {before value : Value} {field : Field Check} :
    field ∈ set.filled entries → field.presence = .default before →
    field.expected.Gives before value → Origin set entries (field.key, value)
  | generated {type : CppType} {field : Field Check} :
    field ∈ set.filled entries → field.presence = .generatedId type →
    Origin set entries (field.key, .id (.generated type))

theorem Outcome.ofChecked_eq_entry_iff {key : String} {checked : Checked} {entry : String × Value} :
    ofChecked key path checked = .entry entry.1 entry.2 ↔ key = entry.1 ∧ checked = .ok entry.2 := by
  obtain ⟨otherKey, result⟩ := entry
  cases checked with
  | error problems => simp [ofChecked, Outcome.entry, problem]
  | ok value =>
    simp only [ofChecked, Outcome.entry, mk.injEq, true_and, List.cons.injEq, and_true, Prod.mk.injEq,
      Except.ok.injEq]

theorem origin_of_checkEntry {before after : String × Value} (member : before ∈ entries)
    (kept : checkEntry set path before.1 before.2 = .entry after.1 after.2) :
    before.1 = after.1 ∧ Origin set entries after := by
  obtain ⟨key, value⟩ := before
  obtain ⟨otherKey, result⟩ := after
  unfold checkEntry at kept
  split at kept
  · rename_i field found
    obtain ⟨rfl, given⟩ := Outcome.ofChecked_eq_entry_iff.mp kept
    exact ⟨rfl, .checked member found ⟨_, given⟩⟩
  · rename_i unknown
    split at kept
    · rename_i extra
      cases kept
      exact ⟨rfl, .extra member unknown extra⟩
    · cases kept

theorem origin_of_fillField {field : Field Check} {after : String × Value}
    (member : field ∈ set.filled entries) (given : fillField path field = .entry after.1 after.2) :
    field.key = after.1 ∧ Origin set entries after := by
  obtain ⟨key, result⟩ := after
  unfold fillField at given
  cases presence : field.presence with
  | required => rw [presence] at given; cases given
  | optional => rw [presence] at given; cases given
  | default value =>
    rw [presence] at given
    obtain ⟨rfl, given⟩ := Outcome.ofChecked_eq_entry_iff.mp given
    exact ⟨rfl, .default member presence ⟨_, given⟩⟩
  | generatedId type =>
    rw [presence] at given
    cases given
    exact ⟨rfl, .generated member presence⟩

theorem keys_eq_of_forall₂ {α : Type} {keyOf : α → String} {xs : List α} {results : Entries Value}
    {related : α → String × Value → Prop} (same : ∀ x ∈ xs, ∀ entry, related x entry → keyOf x = entry.1)
    (pairs : List.Forall₂ related xs results) : Entries.keys results = xs.map keyOf := by
  induction pairs with
  | nil => rfl
  | cons first rest ih =>
    have here := same _ (List.mem_cons_self ..) _ first
    have others := ih fun x member => same x (List.mem_cons_of_mem _ member)
    rw [Entries.keys] at others
    rw [Entries.keys, List.map_cons, List.map_cons, here, others]

/-- The normal form of a mapping has its keys, in their order, and those of the fields that are filled
    in; groups of exclusive keys are met at most once before. -/
theorem check_gives {node : Node} {result : Value} (accepted : set.check node = .ok result) :
    ∃ entries results, node.value = .map entries ∧ result = .map results ∧
      Entries.keys results = Entries.keys entries ++ (set.filled entries).map (·.key) ∧
      (∀ group ∈ set.exclusive, (presentKeys group entries).length ≤ 1) ∧
      ∀ entry ∈ results, Origin set entries entry := by
  obtain ⟨path, value⟩ := node
  cases value with
  | map entries =>
    obtain ⟨groups, kept, added, rfl, keeps, fills⟩ := check_eq_ok_iff.mp accepted
    have keptKeys : Entries.keys kept = Entries.keys entries :=
      keys_eq_of_forall₂ (fun _ member _ same => (origin_of_checkEntry member same).1) keeps
    have addedKeys : Entries.keys added = (set.filled entries).map (·.key) :=
      keys_eq_of_forall₂ (fun _ member _ same => (origin_of_fillField member same).1) fills
    refine ⟨entries, kept ++ added, rfl, rfl, ?_, groups, fun entry member => ?_⟩
    · rw [← keptKeys, ← addedKeys, Entries.keys, List.map_append]
      rfl
    · rcases List.mem_append.mp member with inKept | inAdded
      · obtain ⟨before, inside, same⟩ := exists_mem_left_of_forall₂ keeps inKept
        exact (origin_of_checkEntry inside same).2
      · obtain ⟨field, inside, same⟩ := exists_mem_left_of_forall₂ fills inAdded
        exact (origin_of_fillField inside same).2
  | _ => cases accepted

theorem keys_of_check {results : Entries Value}
    (accepted : set.check ⟨path, .map entries⟩ = .ok (.map results)) :
    Entries.keys results = Entries.keys entries ++ (set.filled entries).map (·.key) := by
  obtain ⟨_, _, same, sameResult, keys, -, -⟩ := check_gives accepted
  cases same
  cases sameResult
  exact keys

theorem not_required_of_filled {result : Value} (accepted : set.check ⟨path, .map entries⟩ = .ok result)
    {field : Field Check} (member : field ∈ set.filled entries) : field.presence ≠ .required := by
  intro required
  obtain ⟨-, kept, added, -, -, fills⟩ := check_eq_ok_iff.mp accepted
  obtain ⟨entry, -, given⟩ := exists_mem_right_of_forall₂ fills member
  rw [fillField, required] at given
  cases given

theorem get?_of_check {results : Entries Value} {key : String} {before : Value} {field : Field Check}
    (accepted : set.check ⟨path, .map entries⟩ = .ok (.map results))
    (present : Entries.get? key entries = some before) (found : find? key set.fields = some field) :
    ∃ after, Entries.get? key results = some after ∧ field.expected.Gives before after := by
  obtain ⟨-, kept, added, same, keeps, -⟩ := check_eq_ok_iff.mp accepted
  cases same
  clear accepted
  induction keeps with
  | nil => cases present
  | @cons first firstAfter rest restAfter here others ih =>
    obtain ⟨sameKey, -⟩ := origin_of_checkEntry (List.mem_singleton_self first) here
    obtain ⟨k, v⟩ := first
    obtain ⟨otherKey, after⟩ := firstAfter
    cases sameKey
    rw [Entries.get?] at present
    by_cases asked : k = key
    · subst asked
      rw [if_pos (beq_self_eq_true _)] at present
      cases present
      simp only [checkEntry, found] at here
      obtain ⟨-, given⟩ := (@Outcome.ofChecked_eq_entry_iff _ _ _ (k, after)).mp here
      refine ⟨after, ?_, _, given⟩
      rw [List.cons_append, Entries.get?, if_pos (beq_self_eq_true _)]
    · have other : ¬(k == key) = true := fun same => asked (eq_of_beq same)
      rw [if_neg other] at present
      obtain ⟨value, held, given⟩ := ih present
      refine ⟨value, ?_, given⟩
      rw [List.cons_append, Entries.get?, if_neg other]
      exact held

theorem check_map (groups : ∀ group ∈ set.exclusive, (presentKeys group entries).length ≤ 1)
    (complete : ∀ field ∈ set.fields, field.presence.isOptional = false →
      field.key ∈ Entries.keys entries)
    (known : ∀ key ∈ Entries.keys entries, find? key set.fields = none → set.allowsExtra = true)
    (stay : ∀ entry ∈ entries, ∀ field, find? entry.1 set.fields = some field →
      ∀ path, field.expected ⟨path, entry.2⟩ = .ok entry.2) (path : Path) :
    set.check ⟨path, .map entries⟩ = .ok (.map entries) := by
  have nothing : set.filled entries = [] := by
    refine List.eq_nil_iff_forall_not_mem.mpr fun field member => ?_
    obtain ⟨inside, missing, expected⟩ := mem_filled.mp member
    exact missing (complete field inside expected)
  refine check_eq_ok_iff.mpr ⟨groups, entries, [], by rw [List.append_nil], ?_, by rw [nothing]; exact .nil⟩
  refine List.forall₂_same.mpr fun entry member => ?_
  unfold checkEntry
  cases found : find? entry.1 set.fields with
  | some field => exact Outcome.ofChecked_eq_entry_iff.mpr ⟨rfl, stay entry member field found _⟩
  | none =>
    have extra := known entry.1 (List.mem_map_of_mem member) found
    simp only [extra, if_true]

end Check

end FieldSet

end DeviceConfig
