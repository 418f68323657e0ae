import DeviceConfig.Proofs.Schema.Regular

/-!
What a set of fields asks of a mapping as a whole, and what holds of its normal form: nothing is missing or
unknown, but groups of exclusive keys are looked at before keys are filled in. A group is met twice in the
normal form where a key of it is filled in beside another one (`FieldSet.normal_form_keeps_level`).
-/

namespace DeviceConfig.FieldSet

/-- The keys of a group that are filled in. -/
def filledKeys (set : FieldSet Check) (entries : Entries Value) (group : List String) : List String :=
  group.filter fun key => ((set.filled entries).map (·.key)).contains key

section Level

variable {set : FieldSet Check} {path : Path} {entries results : Entries Value}

theorem known_of_check (accepted : set.check ⟨path, .map entries⟩ = .ok (.map results)) {key : String}
    (present : key ∈ Entries.keys results) : key ∈ set.keys ∨ set.allowsExtra = true := by
  obtain ⟨_, _, -, sameResult, -, -, origins⟩ := check_gives accepted
  cases sameResult
  obtain ⟨entry, member, rfl⟩ := List.mem_map.mp present
  cases origins entry member with
  | checked _ found _ =>
    obtain ⟨inside, rfl⟩ := find?_mem found
    exact .inl (List.mem_map_of_mem inside)
  | extra _ _ allowed => exact .inr allowed
  | default filled _ _ => exact .inl (List.mem_map_of_mem (mem_filled.mp filled).1)
  | generated filled _ => exact .inl (List.mem_map_of_mem (mem_filled.mp filled).1)

/-- The keys of a group in the normal form are those in the mapping and those that are filled in. -/
theorem length_presentKeys_of_check (accepted : set.check ⟨path, .map entries⟩ = .ok (.map results))
    (group : List String) :
    (presentKeys group results).length =
      (presentKeys group entries).length + (set.filledKeys entries group).length := by
  have keys := keys_of_check accepted
  have before : (presentKeys group results).filter (fun key => Entries.contains key entries) =
      presentKeys group entries := by
    rw [presentKeys, presentKeys, List.filter_filter]
    refine List.filter_congr fun key _ => ?_
    rw [Bool.eq_iff_iff, Bool.and_eq_true_iff, Entries.contains_iff_mem_keys,
      Entries.contains_iff_mem_keys, keys, List.mem_append]
    exact ⟨And.left, fun present => ⟨present, .inl present⟩⟩
  have added : (presentKeys group results).filter (fun key => !Entries.contains key entries) =
      set.filledKeys entries group := by
    rw [presentKeys, filledKeys, List.filter_filter]
    refine List.filter_congr fun key _ => ?_
    rw [Bool.eq_iff_iff, Bool.and_eq_true_iff, Bool.not_eq_true', ← Bool.not_eq_true,
      Entries.contains_iff_mem_keys, Entries.contains_iff_mem_keys, keys, List.mem_append,
      List.contains_iff_mem]
    constructor
    · rintro ⟨absent, present⟩
      exact present.resolve_left absent
    · intro filled
      obtain ⟨field, member, rfl⟩ := List.mem_map.mp filled
      exact ⟨(mem_filled.mp member).2.1, .inr filled⟩
  rw [List.length_eq_length_filter_add fun key => Entries.contains key entries, before, added]

end Level

/-- The normal form of a mapping has all keys that are required or filled in and no unknown ones. Of a group
    of exclusive keys it has one at most exactly if none is filled in, or a single one to a mapping without
    any. -/
theorem normal_form_keeps_level {set : FieldSet Check} {path : Path} {entries results : Entries Value}
    (accepted : set.check ⟨path, .map entries⟩ = .ok (.map results)) :
    (∀ field ∈ set.fields, field.presence.isOptional = false → field.key ∈ Entries.keys results) ∧
    (∀ key ∈ Entries.keys results, key ∈ set.keys ∨ set.allowsExtra = true) ∧
    ∀ group ∈ set.exclusive, (presentKeys group results).length ≤ 1 ↔
      set.filledKeys entries group = [] ∨
      presentKeys group entries = [] ∧ (set.filledKeys entries group).length = 1 := by
  refine ⟨fun field member expected => ?_, fun key present => known_of_check accepted present,
    fun group member => ?_⟩
  · rw [keys_of_check accepted, List.mem_append]
    by_cases present : field.key ∈ Entries.keys entries
    · exact .inl present
    · exact .inr (List.mem_map_of_mem (mem_filled.mpr ⟨member, present, expected⟩))
  · obtain ⟨groups, -⟩ := check_eq_ok_iff.mp accepted
    have once := groups group member
    rw [length_presentKeys_of_check accepted, ← List.length_eq_zero_iff, ← List.length_eq_zero_iff]
    omega

/-- A switch whose state comes from a lambda or is off. -/
def switchFields : FieldSet Schema :=
  ((FieldSet.empty.optional "lambda" .lambda).withDefault "state" (.bool false) .boolean).exclusiveKeys
    ["lambda", "state"]

theorem isBuilt_switchFields : switchFields.IsBuilt :=
  .exclusiveKeys _ (.withDefault _ _ _ (.optional _ _ .empty))

/-- Without a lambda, the state that is filled in is alone. -/
theorem normal_form_keeps_level_switch :
    let set := switchFields.toChecks Rule.check
    set.check ⟨.root, .map []⟩ = .ok (.map [("state", .bool false)]) ∧
    (∀ field ∈ set.fields, field.presence.isOptional = false → field.key ∈ ["state"]) ∧
    (presentKeys ["lambda", "state"] [("state", .bool false)]).length ≤ 1 := by
  have accepted : (switchFields.toChecks Rule.check).check ⟨.root, .map []⟩ =
      .ok (.map [("state", .bool false)]) := rfl
  obtain ⟨complete, -, groups⟩ := normal_form_keeps_level accepted
  exact ⟨accepted, complete, (groups _ (List.mem_singleton_self _)).mpr (.inr ⟨rfl, rfl⟩)⟩

/-- Beside a lambda the state is filled in all the same, and the set refuses its own result. -/
theorem normal_form_breaks_level_switch :
    let lambda : String × Value := ("lambda", .lambda "return true;")
    let state : String × Value := ("state", .bool false)
    switchFields.IsBuilt ∧
    (Schema.fields switchFields).check ⟨.root, .map [lambda]⟩ = .ok (.map [lambda, state]) ∧
    ["lambda", "state"] ∈ switchFields.exclusive ∧
    presentKeys ["lambda", "state"] [lambda, state] = ["lambda", "state"] ∧
    (Schema.fields switchFields).check ⟨.root, .map [lambda, state]⟩ =
      .error [.of .root (.exclusiveKeys ["lambda", "state"])] :=
  ⟨isBuilt_switchFields, rfl, List.mem_singleton_self _, rfl, rfl⟩

end DeviceConfig.FieldSet
