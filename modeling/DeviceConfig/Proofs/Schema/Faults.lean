import DeviceConfig.Proofs.Schema.Regular

/-!
A mapping is checked place by place: each group of exclusive keys and each key has a fault of its own or
none, whatever stands at the other places. The check reports all faults of a mapping and each of them once;
without faults, what becomes of a key depends on the value of that key only
(`FieldSet.checks_places_apart`).
-/

namespace DeviceConfig.FieldSet

/-- Where something may be wrong with a mapping: in the group of exclusive keys at a position of the list of
    groups, or at a key. -/
inductive Place where
  | group (position : Nat)
  | key (name : String)

/-- What is wrong with the mapping at one place. -/
inductive IsFault (set : FieldSet Check) (path : Path) (entries : Entries Value) : Place → Problem → Prop where
  | exclusive {position : Nat} {group : List String} :
    set.exclusive[position]? = some group → 1 < (presentKeys group entries).length →
    IsFault set path entries (.group position) (.of path (.exclusiveKeys (presentKeys group entries)))
  | unknown {key : String} :
    key ∈ Entries.keys entries → key ∉ set.keys → set.allowsExtra = false →
    IsFault set path entries (.key key) (.of (path.key key) (.unknownKey key set.keys))
  | rejected {field : Field Check} {value : Value} {problems : List Problem} :
    field ∈ set.fields → (field.key, value) ∈ entries →
    field.expected ⟨path.key field.key, value⟩ = .error problems →
    IsFault set path entries (.key field.key) (.fold (path.key field.key) problems)
  | missing {field : Field Check} :
    field ∈ set.fields → field.key ∉ Entries.keys entries → field.presence = .required →
    IsFault set path entries (.key field.key) (.of (path.key field.key) (.missingKey field.key))
  | rejectedDefault {field : Field Check} {value : Value} {problems : List Problem} :
    field ∈ set.fields → field.key ∉ Entries.keys entries → field.presence = .default value →
    field.expected ⟨path.key field.key, value⟩ = .error problems →
    IsFault set path entries (.key field.key) (.fold (path.key field.key) problems)

/-- The mapping has all that the set asks for and nothing that it refuses. -/
structure Admits (set : FieldSet Check) (path : Path) (entries : Entries Value) : Prop where
  exclusive : ∀ group ∈ set.exclusive, (presentKeys group entries).length ≤ 1
  known : ∀ key ∈ Entries.keys entries, key ∈ set.keys ∨ set.allowsExtra = true
  accepted : ∀ field ∈ set.fields, ∀ value, (field.key, value) ∈ entries →
    ∃ result, field.expected ⟨path.key field.key, value⟩ = .ok result
  required : ∀ field ∈ set.fields, field.presence = .required → field.key ∈ Entries.keys entries
  defaults : ∀ field ∈ set.fields, ∀ value, field.key ∉ Entries.keys entries →
    field.presence = .default value → ∃ result, field.expected ⟨path.key field.key, value⟩ = .ok result

/-- What stands under a key in the normal form of a mapping that has `own` there. -/
def normal? (set : FieldSet Check) (path : Path) (key : String) (own : Option Value) : Option Value :=
  match find? key set.fields with
  | none => own
  | some field =>
    match own with
    | some value => (field.expected ⟨path.key key, value⟩).toOption
    | none =>
      match field.presence with
      | .default value => (field.expected ⟨path.key key, value⟩).toOption
      | .generatedId type => some (.id (.generated type))
      | .required => none
      | .optional => none

theorem find?_eq_none_iff {σ : Type} {key : String} {fields : List (Field σ)} :
    find? key fields = none ↔ key ∉ fields.map (·.key) := by
  induction fields with
  | nil => simp [find?]
  | cons first rest ih =>
    rw [find?, List.map_cons, List.mem_cons, not_or]
    by_cases same : first.key = key
    · simp [same]
    · rw [if_neg same, ih]
      exact ⟨fun absent => ⟨fun equal => same equal.symm, absent⟩, And.right⟩

namespace Outcome

variable {α : Type} {placeOf : α → Place} {outcomeOf : α → Outcome} {xs : List α}

/-- The problems of outcomes, each at the place that its outcome is about. -/
def faults (placeOf : α → Place) (outcomeOf : α → Outcome) (xs : List α) : List (Place × Problem) :=
  xs.flatMap fun x => (outcomeOf x).problems.map fun problem => (placeOf x, problem)

theorem mem_faults {place : Place} {problem : Problem} :
    (place, problem) ∈ faults placeOf outcomeOf xs ↔
      ∃ x ∈ xs, placeOf x = place ∧ problem ∈ (outcomeOf x).problems := by
  simp only [faults, List.mem_flatMap, List.mem_map, Prod.mk.injEq]
  constructor
  · rintro ⟨x, member, problem, inside, here, rfl⟩
    exact ⟨x, member, here, inside⟩
  · rintro ⟨x, member, here, inside⟩
    exact ⟨x, member, problem, inside, here, rfl⟩

theorem problems_faults :
    (faults placeOf outcomeOf xs).map (·.2) = (all (xs.map outcomeOf)).problems := by
  induction xs with
  | nil => rfl
  | cons x rest ih =>
    have here : ((outcomeOf x).problems.map fun problem => (placeOf x, problem)).map (·.2) =
        (outcomeOf x).problems := by
      rw [List.map_map]
      exact List.map_id _
    rw [faults, List.flatMap_cons, List.map_append, here, ← faults, ih]
    rfl

/-- Where each outcome has one problem at most, no place has more of them than outcomes. -/
theorem places_faults (once : ∀ x ∈ xs, (outcomeOf x).problems.length ≤ 1) :
    ((faults placeOf outcomeOf xs).map (·.1)).Sublist (xs.map placeOf) := by
  induction xs with
  | nil => exact List.Sublist.refl _
  | cons x rest ih =>
    have here : (((outcomeOf x).problems.map fun problem => (placeOf x, problem)).map (·.1)).Sublist
        [placeOf x] := by
      have few := once x (List.mem_cons_self ..)
      match (outcomeOf x).problems, few with
      | [], _ => exact List.nil_sublist _
      | [problem], _ => exact List.Sublist.refl _
    rw [faults, List.flatMap_cons, List.map_append, ← faults]
    exact here.append (ih fun y member => once y (List.mem_cons_of_mem _ member))

theorem mem_problems_ofChecked {key : String} {path : Path} {checked : Checked} {problem : Problem} :
    problem ∈ (ofChecked key path checked).problems ↔
      ∃ problems, checked = .error problems ∧ problem = .fold path problems := by
  cases checked with
  | ok value => simp [ofChecked, entry]
  | error problems => simp [ofChecked, Outcome.problem]

theorem length_problems_ofChecked (key : String) (path : Path) (checked : Checked) :
    (ofChecked key path checked).problems.length ≤ 1 := by
  cases checked with
  | ok value => exact Nat.zero_le 1
  | error problems => exact Nat.le_refl 1

end Outcome

section Faults

variable {set : FieldSet Check} {path : Path} {entries : Entries Value} {problem : Problem}

theorem mem_problems_checkGroup {group : List String} :
    problem ∈ (checkGroup path entries group).problems ↔
      1 < (presentKeys group entries).length ∧
        problem = .of path (.exclusiveKeys (presentKeys group entries)) := by
  by_cases twice : 1 < (presentKeys group entries).length
  · simp [checkGroup, twice, Outcome.problem]
  · simp [checkGroup, twice, Outcome.none]

theorem mem_problems_checkEntry {key : String} {value : Value} :
    problem ∈ (checkEntry set path key value).problems ↔
      (∃ field problems, find? key set.fields = some field ∧
        field.expected ⟨path.key key, value⟩ = .error problems ∧ problem = .fold (path.key key) problems) ∨
      (key ∉ set.keys ∧ set.allowsExtra = false ∧
        problem = .of (path.key key) (.unknownKey key set.keys)) := by
  have unknown : find? key set.fields = none ↔ key ∉ set.keys := find?_eq_none_iff
  rw [← unknown, checkEntry]
  cases found : find? key set.fields with
  | some field => simp [Outcome.mem_problems_ofChecked]
  | none => cases extra : set.allowsExtra <;> simp [Outcome.problem, Outcome.entry]

theorem mem_problems_fillField {field : Field Check} :
    problem ∈ (fillField path field).problems ↔
      (field.presence = .required ∧ problem = .of (path.key field.key) (.missingKey field.key)) ∨
      (∃ value problems, field.presence = .default value ∧
        field.expected ⟨path.key field.key, value⟩ = .error problems ∧
        problem = .fold (path.key field.key) problems) := by
  rw [fillField]
  cases presence : field.presence with
  | required => simp [Outcome.problem]
  | optional => simp [Outcome.none]
  | default value => simp [Outcome.mem_problems_ofChecked]
  | generatedId type => simp [Outcome.entry]

theorem length_problems_checkGroup (group : List String) :
    (checkGroup path entries group).problems.length ≤ 1 := by
  by_cases twice : 1 < (presentKeys group entries).length
  · simp [checkGroup, twice, Outcome.problem]
  · simp [checkGroup, twice, Outcome.none]

theorem length_problems_checkEntry (key : String) (value : Value) :
    (checkEntry set path key value).problems.length ≤ 1 := by
  rw [checkEntry]
  cases find? key set.fields with
  | some field => exact Outcome.length_problems_ofChecked ..
  | none => cases set.allowsExtra <;> simp [Outcome.problem, Outcome.entry]

theorem length_problems_fillField (field : Field Check) : (fillField path field).problems.length ≤ 1 := by
  rw [fillField]
  cases field.presence with
  | required => exact Nat.le_refl 1
  | optional => exact Nat.zero_le 1
  | default value => exact Outcome.length_problems_ofChecked ..
  | generatedId type => exact Nat.zero_le 1

/-- All faults of a mapping in the order in which the check comes across them. -/
def faults (set : FieldSet Check) (path : Path) (entries : Entries Value) : List (Place × Problem) :=
  Outcome.faults (fun group => .group group.2) (fun group => checkGroup path entries group.1)
      set.exclusive.zipIdx ++
    Outcome.faults (fun entry => .key entry.1) (fun entry => checkEntry set path entry.1 entry.2) entries ++
    Outcome.faults (fun field => .key field.key) (fillField path) (set.filled entries)

theorem problems_checkEntries :
    (checkEntries set path entries).problems = (set.faults path entries).map (·.2) := by
  have groups : set.exclusive.zipIdx.map (fun group => checkGroup path entries group.1) =
      set.exclusive.map (checkGroup path entries) := by
    conv_rhs => rw [← List.zipIdx_map_fst 0 set.exclusive, List.map_map]
    rfl
  rw [checkEntries_eq, faults, List.map_append, List.map_append, Outcome.problems_faults,
    Outcome.problems_faults, Outcome.problems_faults, groups]
  rfl

theorem mem_faults (differ : (set.fields.map (·.key)).Nodup) {place : Place} :
    (place, problem) ∈ set.faults path entries ↔ set.IsFault path entries place problem := by
  simp only [faults, List.mem_append, Outcome.mem_faults, mem_problems_checkGroup,
    mem_problems_checkEntry, mem_problems_fillField]
  constructor
  · rintro ((⟨⟨group, position⟩, member, rfl, twice, rfl⟩ | ⟨⟨key, value⟩, member, rfl, reported⟩) |
      ⟨field, member, rfl, reported⟩)
    · exact .exclusive (List.mk_mem_zipIdx_iff_getElem?.mp member) twice
    · rcases reported with ⟨field, problems, found, rejected, rfl⟩ | ⟨unknown, extra, rfl⟩
      · obtain ⟨inside, rfl⟩ := find?_mem found
        exact .rejected inside member rejected
      · exact .unknown (List.mem_map_of_mem member) unknown extra
    · obtain ⟨inside, absent, -⟩ := mem_filled.mp member
      rcases reported with ⟨required, rfl⟩ | ⟨value, problems, default, rejected, rfl⟩
      · exact .missing inside absent required
      · exact .rejectedDefault inside absent default rejected
  · intro fault
    cases fault with
    | exclusive here twice =>
      exact .inl (.inl ⟨(_, _), List.mk_mem_zipIdx_iff_getElem?.mpr here, rfl, twice, rfl⟩)
    | unknown present unknown extra =>
      obtain ⟨⟨_, value⟩, member, rfl⟩ := List.mem_map.mp present
      exact .inl (.inr ⟨_, member, rfl, .inr ⟨unknown, extra, rfl⟩⟩)
    | @rejected field value problems inside present rejected =>
      exact .inl (.inr ⟨(field.key, value), present, rfl,
        .inl ⟨field, problems, find?_of_mem differ inside, rejected, rfl⟩⟩)
    | @missing field inside absent required =>
      have filled : field ∈ set.filled entries := mem_filled.mpr ⟨inside, absent, by rw [required]; rfl⟩
      exact .inr ⟨field, filled, rfl, .inl ⟨required, rfl⟩⟩
    | @rejectedDefault field value problems inside absent default rejected =>
      have filled : field ∈ set.filled entries := mem_filled.mpr ⟨inside, absent, by rw [default]; rfl⟩
      exact .inr ⟨field, filled, rfl, .inr ⟨value, problems, default, rejected, rfl⟩⟩

theorem nodup_keys_filled (differ : (set.fields.map (·.key)).Nodup) (distinct : Entries.Distinct entries) :
    (Entries.keys entries ++ (set.filled entries).map (·.key)).Nodup := by
  refine List.nodup_append.mpr ⟨distinct, ?_, ?_⟩
  · exact differ.sublist ((List.filter_sublist.trans List.filter_sublist).map _)
  · rintro key present other filled rfl
    obtain ⟨field, member, rfl⟩ := List.mem_map.mp filled
    exact (mem_filled.mp member).2.1 present

/-- No place has two faults, as the mapping has no key twice and neither has the set. -/
theorem nodup_places (differ : (set.fields.map (·.key)).Nodup) (distinct : Entries.Distinct entries) :
    ((set.faults path entries).map (·.1)).Nodup := by
  have groups := @Outcome.places_faults _ (fun group : List String × Nat => .group group.2)
    (fun group => checkGroup path entries group.1) set.exclusive.zipIdx
    fun group _ => length_problems_checkGroup group.1
  have own := @Outcome.places_faults _ (fun entry : String × Value => .key entry.1)
    (fun entry => checkEntry set path entry.1 entry.2) entries
    fun entry _ => length_problems_checkEntry entry.1 entry.2
  have added := @Outcome.places_faults _ (fun field : Field Check => .key field.key)
    (fillField path) (set.filled entries) fun field _ => length_problems_fillField field
  rw [faults, List.map_append, List.map_append]
  refine ((groups.append own).append added).nodup ?_
  have positions : (set.exclusive.zipIdx.map fun group => Place.group group.2).Nodup := by
    have numbers : set.exclusive.zipIdx.map (fun group => Place.group group.2) =
        (List.range' 0 set.exclusive.length).map Place.group := by
      rw [← List.zipIdx_map_snd, List.map_map]
      rfl
    rw [numbers]
    exact List.Nodup.map (fun _ _ same => Place.group.inj same) List.nodup_range'
  have keys := nodup_keys_filled differ distinct
  have places : (entries.map (fun entry => Place.key entry.1) ++
      (set.filled entries).map fun field => Place.key field.key) =
      (Entries.keys entries ++ (set.filled entries).map (·.key)).map Place.key := by
    rw [List.map_append, Entries.keys, List.map_map, List.map_map]
    rfl
  rw [List.append_assoc, places]
  refine List.nodup_append.mpr ⟨positions, keys.map fun _ _ same => Place.key.inj same, ?_⟩
  intro place atGroup other atKey same
  obtain ⟨group, -, rfl⟩ := List.mem_map.mp atGroup
  obtain ⟨key, -, rfl⟩ := List.mem_map.mp atKey
  cases same

theorem admits_iff : set.Admits path entries ↔ ∀ place problem, ¬set.IsFault path entries place problem := by
  constructor
  · intro admitted place problem fault
    cases fault with
    | exclusive here twice =>
      exact Nat.not_lt.mpr (admitted.exclusive _ (List.mem_of_getElem? here)) twice
    | unknown present unknown extra =>
      rcases admitted.known _ present with known | allowed
      · exact unknown known
      · rw [extra] at allowed
        cases allowed
    | rejected inside present rejected =>
      obtain ⟨result, accepted⟩ := admitted.accepted _ inside _ present
      rw [rejected] at accepted
      cases accepted
    | missing inside absent required => exact absent (admitted.required _ inside required)
    | rejectedDefault inside absent default rejected =>
      obtain ⟨result, accepted⟩ := admitted.defaults _ inside _ absent default
      rw [rejected] at accepted
      cases accepted
  · intro faultless
    constructor
    case exclusive =>
      intro group member
      by_contra twice
      obtain ⟨position, here⟩ := List.getElem?_of_mem member
      exact faultless _ _ (.exclusive here (Nat.lt_of_not_le twice))
    case known =>
      intro key present
      by_contra refused
      obtain ⟨unknown, extra⟩ := not_or.mp refused
      exact faultless _ _ (.unknown present unknown (Bool.not_eq_true _ ▸ extra))
    case accepted =>
      intro field inside value present
      cases checked : field.expected ⟨path.key field.key, value⟩ with
      | ok result => exact ⟨result, rfl⟩
      | error problems => exact absurd (.rejected inside present checked) (faultless _ _)
    case required =>
      intro field inside required
      by_contra absent
      exact faultless _ _ (.missing inside absent required)
    case defaults =>
      intro field inside value absent default
      cases checked : field.expected ⟨path.key field.key, value⟩ with
      | ok result => exact ⟨result, rfl⟩
      | error problems => exact absurd (.rejectedDefault inside absent default checked) (faultless _ _)

theorem checkEntries_faultless (differ : (set.fields.map (·.key)).Nodup) :
    (checkEntries set path entries).problems = [] ↔ set.Admits path entries := by
  rw [problems_checkEntries, List.map_eq_nil_iff, List.eq_nil_iff_forall_not_mem, admits_iff, Prod.forall]
  simp only [mem_faults differ]

theorem check_eq_ok_iff_admits (differ : (set.fields.map (·.key)).Nodup) :
    (∃ result, set.check ⟨path, .map entries⟩ = .ok result) ↔ set.Admits path entries := by
  rw [← checkEntries_faultless differ, ← List.isEmpty_iff]
  simp only [check]
  by_cases clean : (checkEntries set path entries).problems.isEmpty = true
  · simp [clean]
  · simp [clean]

theorem problems_of_check {problems : List Problem}
    (refused : set.check ⟨path, .map entries⟩ = .error problems) :
    problems = (set.faults path entries).map (·.2) := by
  rw [← problems_checkEntries]
  simp only [check] at refused
  split at refused
  · cases refused
  · cases refused
    rfl

end Faults

section Normal

variable {set : FieldSet Check} {path : Path} {entries : Entries Value}

theorem normal?_of_checkEntry (distinct : Entries.Distinct entries) {before after : String × Value}
    (member : before ∈ entries) (kept : checkEntry set path before.1 before.2 = .entry after.1 after.2) :
    set.normal? path after.1 (Entries.get? after.1 entries) = some after.2 := by
  obtain ⟨key, value⟩ := before
  obtain ⟨otherKey, result⟩ := after
  obtain ⟨rfl, -⟩ := origin_of_checkEntry member kept
  rw [checkEntry] at kept
  rw [Entries.get?_of_mem distinct member, normal?]
  cases found : find? key set.fields with
  | some field =>
    simp only [found] at kept ⊢
    obtain ⟨-, given⟩ := (@Outcome.ofChecked_eq_entry_iff _ _ _ (key, result)).mp kept
    rw [given]
    rfl
  | none =>
    simp only [found] at kept ⊢
    split at kept
    · cases kept
      rfl
    · cases kept

theorem normal?_of_fillField (differ : (set.fields.map (·.key)).Nodup) {field : Field Check}
    {after : String × Value} (member : field ∈ set.filled entries)
    (given : fillField path field = .entry after.1 after.2) :
    set.normal? path after.1 (Entries.get? after.1 entries) = some after.2 := by
  obtain ⟨key, result⟩ := after
  obtain ⟨inside, absent, -⟩ := mem_filled.mp member
  obtain ⟨rfl, -⟩ := origin_of_fillField member given
  rw [Entries.get?_eq_none_iff.mpr absent, normal?, find?_of_mem differ inside]
  rw [fillField] at given
  cases presence : field.presence with
  | required =>
    rw [presence] at given
    cases given
  | optional =>
    rw [presence] at given
    cases given
  | default value =>
    simp only [presence] at given ⊢
    obtain ⟨-, accepted⟩ := (@Outcome.ofChecked_eq_entry_iff _ _ _ (field.key, result)).mp given
    rw [accepted]
    rfl
  | generatedId type =>
    simp only [presence] at given ⊢
    cases given
    rfl

/-- A key that is neither in the mapping nor filled in has no normal form. -/
theorem normal?_eq_none {key : String} (absent : key ∉ Entries.keys entries)
    (unfilled : key ∉ (set.filled entries).map (·.key)) :
    set.normal? path key (Entries.get? key entries) = none := by
  rw [Entries.get?_eq_none_iff.mpr absent, normal?]
  cases found : find? key set.fields with
  | none => rfl
  | some field =>
    obtain ⟨inside, rfl⟩ := find?_mem found
    cases presence : field.presence with
    | optional => simp only [presence]
    | _ =>
      refine absurd (List.mem_map_of_mem (mem_filled.mpr ⟨inside, absent, ?_⟩)) unfilled
      rw [presence]
      rfl

theorem get?_normal (differ : (set.fields.map (·.key)).Nodup) (distinct : Entries.Distinct entries)
    {results : Entries Value} (accepted : set.check ⟨path, .map entries⟩ = .ok (.map results))
    (key : String) :
    Entries.get? key results = set.normal? path key (Entries.get? key entries) := by
  have keys := keys_of_check accepted
  by_cases present : key ∈ Entries.keys results
  · obtain ⟨value, held⟩ := Entries.exists_get?_of_mem_keys present
    have member := Entries.mem_of_get? held
    obtain ⟨-, kept, added, same, keeps, fills⟩ := check_eq_ok_iff.mp accepted
    cases same
    rw [held, eq_comm]
    rcases List.mem_append.mp member with inKept | inAdded
    · obtain ⟨before, inside, given⟩ := exists_mem_left_of_forall₂ keeps inKept
      exact normal?_of_checkEntry distinct inside given
    · obtain ⟨field, inside, given⟩ := exists_mem_left_of_forall₂ fills inAdded
      exact normal?_of_fillField differ inside given
  · rw [Entries.get?_eq_none_iff.mpr present]
    rw [keys, List.mem_append, not_or] at present
    exact (normal?_eq_none present.1 present.2).symm

end Normal

/-- The places of a mapping do not disturb one another. The mapping is accepted exactly if the set admits
    it. If it is refused, the problems are those at its faulty places, one for each. If it is accepted, its
    keys stay in their order, those that are filled in follow in the order of the fields, and what becomes
    of a key is told by its own value. The keys of a set differ if it is made by the operations on sets. -/
theorem checks_places_apart {set : FieldSet Check} (differ : (set.fields.map (·.key)).Nodup) (path : Path)
    {entries : Entries Value} (distinct : Entries.Distinct entries) :
    ((∃ result, set.check ⟨path, .map entries⟩ = .ok result) ↔ set.Admits path entries) ∧
    (∀ problems, set.check ⟨path, .map entries⟩ = .error problems →
      ∃ faults : List (Place × Problem), problems = faults.map (·.2) ∧ (faults.map (·.1)).Nodup ∧
        ∀ place problem, (place, problem) ∈ faults ↔ set.IsFault path entries place problem) ∧
    ∀ result, set.check ⟨path, .map entries⟩ = .ok result →
      ∃ results, result = .map results ∧
        Entries.keys results = Entries.keys entries ++ (set.filled entries).map (·.key) ∧
        ∀ key, Entries.get? key results = set.normal? path key (Entries.get? key entries) := by
  refine ⟨check_eq_ok_iff_admits differ, fun problems refused => ?_, fun result accepted => ?_⟩
  · exact ⟨set.faults path entries, problems_of_check refused, nodup_places differ distinct,
      fun place problem => mem_faults differ⟩
  · obtain ⟨_, results, same, rfl, keys, -, -⟩ := check_gives accepted
    cases same
    exact ⟨results, rfl, keys, get?_normal differ distinct accepted⟩

/-- Both keys of a group, a text that is no boolean, an unknown key and no kind: four faults, each reported
    once, the first of them for the group. -/
theorem checks_places_apart_lamp :
    let set := Schema.lampFields.toChecks Rule.check
    let entries : Entries Value :=
      [("lambda", .lambda "return true;"), ("colour", .string "red"), ("state", .string "maybe")]
    (set.fields.map (·.key)).Nodup ∧ Entries.Distinct entries ∧ ¬set.Admits .root entries ∧
    ∃ problems, ∃ faults : List (Place × Problem), set.check ⟨.root, .map entries⟩ = .error problems ∧
      problems = faults.map (·.2) ∧ (faults.map (·.1)).Nodup ∧
      (∀ place problem, (place, problem) ∈ faults ↔ set.IsFault .root entries place problem) ∧
      problems.map (·.complaint) = [.exclusiveKeys ["state", "lambda"],
        .unknownKey "colour" ["kind", "id", "fades", "state", "lambda"], .unreadableBoolean "maybe",
        .missingKey "kind"] := by
  intro set entries
  have differ : (set.fields.map (·.key)).Nodup := by decide
  have distinct : Entries.Distinct entries := by unfold Entries.Distinct; decide
  obtain ⟨accepts, refuses, -⟩ := checks_places_apart differ .root distinct
  have refused : set.check ⟨.root, .map entries⟩ = .error [
      .of .root (.exclusiveKeys ["state", "lambda"]),
      .of (Path.root.key "colour") (.unknownKey "colour" ["kind", "id", "fades", "state", "lambda"]),
      .of (Path.root.key "state") (.unreadableBoolean "maybe"),
      .of (Path.root.key "kind") (.missingKey "kind")] := rfl
  obtain ⟨faults, same, once, all⟩ := refuses _ refused
  refine ⟨differ, distinct, fun admitted => ?_, _, faults, refused, same, once, all, rfl⟩
  obtain ⟨result, accepted⟩ := accepts.mpr admitted
  rw [refused] at accepted
  cases accepted

end DeviceConfig.FieldSet
