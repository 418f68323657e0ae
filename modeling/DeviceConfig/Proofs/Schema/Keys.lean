import DeviceConfig.Proofs.Schema.Naming

/-!
Checking repeats no key: if the keys of each mapping in a value differ, they do so in what a schema makes
of the value (`Schema.keysDiffer_of_check`). Naming the identifiers does not change any key.
-/

namespace DeviceConfig

theorem Value.keysDiffer_single {key : String} {value : Value} (differ : value.keysDiffer = true) :
    (Value.map [(key, value)]).keysDiffer = true := by
  refine keysDiffer_map.mpr ⟨List.nodup_singleton _, fun entry member => ?_⟩
  cases List.mem_singleton.mp member
  exact differ

namespace FieldSet

/-- Whether no key stands twice in what the fields insert. -/
def defaultsDiffer (set : FieldSet Schema) : Bool :=
  set.fields.all fun field =>
    match field.presence with
    | .default value => value.keysDiffer
    | _ => true

variable {rules : Rule → Check} {set : FieldSet Schema}

theorem nodup_filled (differ : (set.fields.map (·.key)).Nodup) (entries : Entries Value) :
    (((set.toChecks rules).filled entries).map (·.key)).Nodup := by
  have keys : (set.toChecks rules).fields.map (·.key) = set.fields.map (·.key) := by
    rw [toChecks, List.map_map]
    rfl
  have kept : ((set.toChecks rules).filled entries).Sublist (set.toChecks rules).fields :=
    List.filter_sublist.trans List.filter_sublist
  exact (kept.map (·.key)).nodup (keys ▸ differ)

theorem keysDiffer_of_check (stable : set.isStable = true) (defaults : set.defaultsDiffer = true)
    (each : ∀ schema ∈ set.expectations, ∀ node value, schema.checkWith rules node = .ok value →
      node.value.keysDiffer = true → value.keysDiffer = true) {node : Node} {result : Value}
    (accepted : (set.toChecks rules).check node = .ok result) (differ : node.value.keysDiffer = true) :
    result.keysDiffer = true := by
  obtain ⟨entries, results, whole, rfl, keys, -, origin⟩ := check_gives accepted
  rw [whole] at differ
  obtain ⟨distinct, inner⟩ := Value.keysDiffer_map.mp differ
  have fieldsDiffer : (set.fields.map (·.key)).Nodup :=
    of_decide_eq_true (Bool.and_eq_true_iff.mp stable).1
  refine Value.keysDiffer_map.mpr ⟨?_, fun entry inside => ?_⟩
  · rw [Entries.Distinct, keys]
    -- only keys that the mapping lacks are filled in
    refine List.nodup_append.mpr ⟨distinct, nodup_filled fieldsDiffer entries, fun key member other added => ?_⟩
    rintro rfl
    obtain ⟨field, filled, rfl⟩ := List.mem_map.mp added
    exact (mem_filled.mp filled).2.1 member
  · cases origin entry inside with
    | @checked key before value field held found given =>
      obtain ⟨own, same, rfl⟩ := find?_toChecks found
      obtain ⟨place, given⟩ := given
      exact each _ (expected_mem (find?_mem same).1) _ _ given (inner _ held)
    | extra before other allowed => exact inner _ before
    | default filled presence given =>
      obtain ⟨own, found, rfl⟩ := find?_of_filled fieldsDiffer filled
      obtain ⟨member, -⟩ := find?_mem found
      obtain ⟨place, given⟩ := given
      have inserted := List.all_eq_true.mp defaults own member
      have same : own.presence = .default _ := presence
      rw [same] at inserted
      exact each _ (expected_mem member) _ _ given inserted
    | generated filled presence => rfl

end FieldSet

namespace Schema

/-- Whether the schema itself, regardless of its parts, inserts no key twice. -/
def defaultsDiffer : Schema → Bool
  | fields set => set.defaultsDiffer
  | automation set => set.defaultsDiffer
  | dispatch _ choices => choices.all fun choice => choice.2.defaultsDiffer
  | _ => true

theorem keysDiffer_of_reading {schema : Schema} {read : Value → Scalar.Read} (reads : schema.reading? = some read)
    {value result : Value} (given : read value = .ok result) (differ : value.keysDiffer = true) :
    result.keysDiffer = true := by
  have settled := settles_of_reading reads _ _ given
  cases result with
  | list items => exact absurd settled (not_list_of_reading reads)
  | map entries =>
    cases coerce_of_reading reads settled
    cases reads
    cases value with
    | map others =>
      cases given
      exact differ
    | _ =>
      cases given
      exact Value.keysDiffer_single differ
  | _ => rfl

variable {rules : Rule → Check}

theorem keysDiffer_of_checkWith
    (sound : ∀ rule node value, rules rule node = .ok value → node.value.keysDiffer = true →
      value.keysDiffer = true)
    (schema : Schema) (stable : schema.everywhere isStable = true)
    (defaults : schema.everywhere defaultsDiffer = true) (node : Node) (value : Value)
    (accepted : schema.checkWith rules node = .ok value) (differ : node.value.keysDiffer = true) :
    value.keysDiffer = true := by
  -- as in `normal_of_checkWith`, but about the keys of what each schema makes
  induction schema using Schema.induct generalizing node value with
  | step schema ih =>
    obtain ⟨here, inside⟩ := everywhere_iff.mp stable
    obtain ⟨own, insideToo⟩ := everywhere_iff.mp defaults
    have each : ∀ part ∈ schema.parts, ∀ node value, part.checkWith rules node = .ok value →
        node.value.keysDiffer = true → value.keysDiffer = true :=
      fun part member => ih part member (inside part member) (insideToo part member)
    clear ih inside insideToo stable defaults
    cases reads : schema.reading? with
    | some read =>
      rw [checkWith_of_reading rules reads] at accepted
      exact keysDiffer_of_reading reads (Check.ofScalar_eq_ok_iff.mp accepted) differ
    | none =>
      have ofPart {part : Value} (member : part ∈ node.value :: node.value.parts) : part.keysDiffer = true := by
        rcases List.mem_cons.mp member with rfl | inside
        · exact differ
        · exact Value.keysDiffer_of_mem_parts differ inside
      cases schema with
      | any =>
        cases accepted
        exact differ
      | templatable inner =>
        rcases Check.templatable_gives accepted with ⟨code, -, rfl⟩ | ⟨path, given⟩
        · rfl
        · exact each inner (List.mem_singleton_self _) _ _ given differ
      | oneOrMany inner =>
        obtain ⟨items, rfl, origin⟩ := Check.oneOrMany_gives accepted
        refine Value.keysDiffer_list.mpr fun item member => ?_
        obtain ⟨part, held, path, given⟩ := origin item member
        exact each inner (List.mem_singleton_self _) _ _ given (ofPart held)
      | listOf inner =>
        obtain ⟨items, rfl, origin⟩ := Check.listOf_gives accepted
        refine Value.keysDiffer_list.mpr fun item member => ?_
        obtain ⟨part, held, path, given⟩ := origin item member
        exact each inner (List.mem_singleton_self _) _ _ given (ofPart (List.mem_cons_of_mem _ held))
      | fields set =>
        rw [checkWith_fields] at accepted
        exact FieldSet.keysDiffer_of_check here own each accepted differ
      | allOf steps =>
        obtain ⟨set, rfl⟩ := steps_of_areSimpleId here
        rw [checkWith, checks_eq] at accepted
        obtain ⟨before, held, given⟩ := Check.allOf_withSimpleId accepted
        refine each (fields set) (by simp [parts]) _ _ given ?_
        rcases List.mem_cons.mp held with rfl | wrapped
        · exact differ
        · cases List.mem_singleton.mp wrapped
          exact Value.keysDiffer_single differ
      | anyOf options => cases here
      | invalid message => cases accepted
      | dispatch key choices =>
        rw [checkWith] at accepted
        obtain ⟨entries, selector, check, whole, present, found, given⟩ := Check.dispatch_gives accepted
        rw [find?_choiceChecks] at found
        obtain ⟨set, chosen, rfl⟩ := Option.map_eq_some_iff.mp found
        have choice := Entries.mem_of_get? chosen
        obtain ⟨ownStable, -⟩ := Bool.and_eq_true_iff.mp (List.all_eq_true.mp here _ choice)
        exact FieldSet.keysDiffer_of_check ownStable (List.all_eq_true.mp own _ choice)
          (fun part member => each part (List.mem_flatMap.mpr ⟨_, choice, member⟩)) given differ
      | singleKey kind entries =>
        rw [checkWith] at accepted
        obtain ⟨key, before, after, check, whole, found, ⟨path, given⟩, rfl⟩ := Check.singleKey_gives accepted
        rw [find?_entryChecks] at found
        obtain ⟨schema, chosen, rfl⟩ := Option.map_eq_some_iff.mp found
        have member : schema ∈ (singleKey kind entries).parts :=
          List.mem_map_of_mem (f := (·.2)) (Entries.mem_of_get? chosen)
        rw [whole] at differ
        have inner := (Value.keysDiffer_map.mp differ).2 _ (List.mem_singleton_self (key, before))
        exact Value.keysDiffer_single (each schema member _ _ given inner)
      | automation set =>
        rw [checkWith_automation] at accepted
        obtain ⟨items, rfl, -, origin⟩ := Check.automation_gives accepted
        refine Value.keysDiffer_list.mpr fun item member => ?_
        obtain ⟨part, held, -, path, given⟩ := origin item member
        refine FieldSet.keysDiffer_of_check here own each given ?_
        rcases List.mem_cons.mp held with rfl | written
        · exact Value.keysDiffer_single differ
        · exact ofPart written
      | recursive rule => exact sound rule node value accepted differ
      | _ => cases reads

end Schema

theorem Rule.keysDiffer_of_checkWithin {bound : Nat} (rule : Rule) (node : Node) (value : Value)
    (accepted : rule.checkWithin bound node = .ok value) (differ : node.value.keysDiffer = true) :
    value.keysDiffer = true := by
  induction bound generalizing rule node value with
  | zero => cases accepted
  | succ bound ih =>
    have defaults : rule.schema.everywhere Schema.defaultsDiffer = true := by cases rule <;> rfl
    exact Schema.keysDiffer_of_checkWith ih _ rule.isStable_schema defaults node value accepted differ

theorem Schema.keysDiffer_of_check {schema : Schema} (stable : schema.everywhere Schema.isStable = true)
    (defaults : schema.everywhere Schema.defaultsDiffer = true) {node : Node} {value : Value}
    (accepted : schema.check node = .ok value) (differ : node.value.keysDiffer = true) :
    value.keysDiffer = true :=
  keysDiffer_of_checkWith (fun _ _ _ => Rule.keysDiffer_of_checkWithin _ _ _) schema stable defaults node value
    accepted differ

theorem Value.Renames.keysDiffer {value result : Value} (renames : value.Renames result)
    (differ : value.keysDiffer = true) : result.keysDiffer = true := by
  induction value using Value.induct generalizing result with
  | list items each =>
    cases renames with
    | list pairs =>
      refine Value.keysDiffer_list.mpr (forall_mem_of_forall₂ pairs fun item member _ related => ?_)
      exact each item member related (Value.keysDiffer_list.mp differ item member)
    | scalar scalar => cases scalar
  | map entries each =>
    cases renames with
    | map keys values =>
      obtain ⟨distinct, inner⟩ := Value.keysDiffer_map.mp differ
      have pairs := Value.renames_map_iff.mp (.map keys values)
      refine Value.keysDiffer_map.mpr ⟨?_, forall_mem_of_forall₂ pairs fun entry member _ both => ?_⟩
      · rw [Entries.Distinct, keys]
        exact distinct
      · exact each entry member both.2 (inner entry member)
    | scalar scalar => cases scalar
  | scalar value scalar =>
    cases renames with
    | id => rfl
    | list => cases scalar
    | map => cases scalar
    | scalar => exact keysDiffer_scalar scalar

end DeviceConfig
