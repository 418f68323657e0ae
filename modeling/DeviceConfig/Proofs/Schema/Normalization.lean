import DeviceConfig.Proofs.Schema.Parts
import DeviceConfig.Proofs.Schema.Scalars

/-!
Checking normalizes: what a schema makes of a value is in normal form (`Schema.normal_of_check`). This
asks for some care in how the schema is made (`Schema.isStable`): what is filled in must not break an
exclusive group, must be accepted itself, and must not change what the mapping is taken for.
-/

namespace DeviceConfig

namespace FieldSet

/-- Whether a field is not in the groups of exclusive keys, and if it makes up identifiers, they are
    accepted by it. -/
def fillsWell (exclusive : List (List String)) (field : Field Schema) : Bool :=
  match field.presence with
  | .required => true
  | .optional => true
  | .default _ => exclusive.all fun group => !group.contains field.key
  | .generatedId type =>
    (exclusive.all fun group => !group.contains field.key) &&
      match field.expected with
      | .declareId declared => decide (declared = type) && Cpp.isName type.nameHint
      | _ => false

def isStable (set : FieldSet Schema) : Bool :=
  decide (set.fields.map (·.key)).Nodup && set.fields.all (fillsWell set.exclusive)

/-- Whether the value of the key is any text. -/
def isText (set : FieldSet Schema) (key : String) : Bool :=
  match find? key set.fields with
  | some ⟨_, _, .string⟩ => true
  | _ => false

variable {rules : Rule → Check} {set : FieldSet Schema}

theorem find?_toChecks {key : String} {field : Field Check}
    (found : find? key (set.toChecks rules).fields = some field) :
    ∃ own, find? key set.fields = some own ∧ own.toCheck rules = field := by
  rw [toChecks, find?_toCheck] at found
  exact Option.map_eq_some_iff.mp found

theorem mem_filled_toChecks {entries : Entries Value} {field : Field Check}
    (member : field ∈ (set.toChecks rules).filled entries) :
    ∃ own ∈ set.fields, own.key ∉ Entries.keys entries ∧ own.presence.isOptional = false ∧
      own.toCheck rules = field := by
  obtain ⟨inside, missing, expected⟩ := mem_filled.mp member
  obtain ⟨own, held, rfl⟩ := List.mem_map.mp inside
  exact ⟨own, held, missing, expected, rfl⟩

theorem find?_of_filled (differ : (set.fields.map (·.key)).Nodup) {entries : Entries Value}
    {field : Field Check} (member : field ∈ (set.toChecks rules).filled entries) :
    ∃ own, find? field.key set.fields = some own ∧ own.toCheck rules = field := by
  obtain ⟨own, held, -, -, rfl⟩ := mem_filled_toChecks member
  exact ⟨own, find?_of_mem differ held, rfl⟩

theorem not_mem_group_of_filled (stable : set.isStable = true) {path : Path} {entries : Entries Value}
    {result : Value} (accepted : (set.toChecks rules).check ⟨path, .map entries⟩ = .ok result)
    {field : Field Check} (member : field ∈ (set.toChecks rules).filled entries)
    {group : List String} (exclusive : group ∈ set.exclusive) : field.key ∉ group := by
  have notRequired := not_required_of_filled accepted member
  obtain ⟨own, inside, -, expected, rfl⟩ := mem_filled_toChecks member
  obtain ⟨-, each⟩ := Bool.and_eq_true_iff.mp stable
  have well := List.all_eq_true.mp each own inside
  have apart (outside : (set.exclusive.all fun group => !group.contains own.key) = true) :
      own.key ∉ group := by
    have here := List.all_eq_true.mp outside group exclusive
    simpa using here
  rw [fillsWell] at well
  cases presence : own.presence with
  | required => exact absurd presence notRequired
  | optional => rw [presence] at expected; cases expected
  | default value =>
    rw [presence] at well
    exact apart well
  | generatedId type =>
    rw [presence] at well
    exact apart (Bool.and_eq_true_iff.mp well).1

theorem presentKeys_of_check (stable : set.isStable = true) {path : Path} {entries results : Entries Value}
    (accepted : (set.toChecks rules).check ⟨path, .map entries⟩ = .ok (.map results))
    (keys : Entries.keys results =
      Entries.keys entries ++ ((set.toChecks rules).filled entries).map (·.key))
    {group : List String} (exclusive : group ∈ set.exclusive) :
    presentKeys group results = presentKeys group entries := by
  refine List.filter_congr fun key member => ?_
  rw [Bool.eq_iff_iff, Entries.contains_iff_mem_keys, Entries.contains_iff_mem_keys, keys,
    List.mem_append]
  refine ⟨fun present => present.resolve_right fun filled => ?_, .inl⟩
  obtain ⟨field, inside, rfl⟩ := List.mem_map.mp filled
  exact not_mem_group_of_filled stable accepted inside exclusive member

theorem normal_generated (stable : set.isStable = true) {field : Field Schema} (member : field ∈ set.fields)
    {type : CppType} (presence : field.presence = .generatedId type) :
    field.expected.Normal (.id (.generated type)) := by
  obtain ⟨-, each⟩ := Bool.and_eq_true_iff.mp stable
  have well := List.all_eq_true.mp each field member
  rw [fillsWell, presence] at well
  obtain ⟨-, own⟩ := Bool.and_eq_true_iff.mp well
  split at own
  · rename_i declared expected
    obtain ⟨same, named⟩ := Bool.and_eq_true_iff.mp own
    obtain rfl : declared = type := of_decide_eq_true same
    rw [expected]
    refine .scalar rfl (Scalar.identifier_of_admits ⟨rfl, named, .inr ⟨rfl, rfl⟩, fun named => ?_⟩)
    exact absurd rfl named
  · cases own

theorem normal_of_check (stable : set.isStable = true)
    (each : ∀ schema ∈ set.expectations, ∀ node value, schema.checkWith rules node = .ok value →
      schema.Normal value) {node : Node} {result : Value}
    (accepted : (set.toChecks rules).check node = .ok result) :
    (Schema.fields set).Normal result := by
  obtain ⟨entries, results, whole, rfl, keys, groups, origin⟩ := check_gives accepted
  obtain ⟨path, value⟩ := node
  obtain rfl : value = .map entries := whole
  have differ : (set.fields.map (·.key)).Nodup :=
    of_decide_eq_true (Bool.and_eq_true_iff.mp stable).1
  refine .fields ?_ ?_ ?_ ?_
  · intro group member
    rw [presentKeys_of_check stable accepted keys member]
    exact groups group member
  · intro field member expected
    rw [keys, List.mem_append]
    by_cases present : field.key ∈ Entries.keys entries
    · exact .inl present
    · have filled : field.toCheck rules ∈ (set.toChecks rules).filled entries :=
        mem_filled.mpr ⟨List.mem_map_of_mem member, present, expected⟩
      exact .inr (List.mem_map_of_mem (f := (·.key)) filled)
  · intro key member unknown
    obtain ⟨entry, inside, rfl⟩ := List.mem_map.mp member
    have unknownCheck : find? entry.1 (set.toChecks rules).fields = none := by
      rw [toChecks, find?_toCheck, unknown]
      rfl
    cases origin entry inside with
    | checked before found given => rw [found] at unknownCheck; cases unknownCheck
    | extra before other allowed => exact allowed
    | default filled presence given =>
      obtain ⟨own, found, rfl⟩ := find?_of_filled differ filled
      cases found.symm.trans unknown
    | generated filled presence =>
      obtain ⟨own, found, rfl⟩ := find?_of_filled differ filled
      cases found.symm.trans unknown
  · intro entry inside field known
    obtain ⟨member, -⟩ := find?_mem known
    cases origin entry inside with
    | checked before found given =>
      obtain ⟨own, same, rfl⟩ := find?_toChecks found
      cases same.symm.trans known
      obtain ⟨place, given⟩ := given
      exact each _ (expected_mem member) _ _ given
    | extra before other allowed =>
      rw [toChecks, find?_toCheck, known] at other
      cases other
    | default filled presence given =>
      obtain ⟨own, found, rfl⟩ := find?_of_filled differ filled
      cases found.symm.trans known
      obtain ⟨place, given⟩ := given
      exact each _ (expected_mem member) _ _ given
    | generated filled presence =>
      obtain ⟨own, found, rfl⟩ := find?_of_filled differ filled
      cases found.symm.trans known
      exact normal_generated stable member presence

theorem scalarText_of_isText {key : String} (isText : set.isText key = true) {path : Path}
    {entries results : Entries Value} {before : Value}
    (accepted : (set.toChecks rules).check ⟨path, .map entries⟩ = .ok (.map results))
    (present : Entries.get? key entries = some before) :
    ∃ after, Entries.get? key results = some after ∧ before.scalarText? = after.scalarText? := by
  unfold FieldSet.isText at isText
  split at isText
  · rename_i own presence found
    have checked : find? key (set.toChecks rules).fields =
        some (Field.toCheck rules ⟨own, presence, .string⟩) := by
      rw [toChecks, find?_toCheck, found]
      rfl
    obtain ⟨after, held, place, given⟩ := get?_of_check accepted present checked
    have read : Scalar.string before = .ok after := Check.ofScalar_eq_ok_iff.mp given
    obtain ⟨s, text, rfl⟩ := map_eq_ok_iff.mp read
    exact ⟨.string s, held, Scalar.scalarText_of_text text⟩
  · cases isText

/-- No key of a mapping is lost, so what is taken for an automation stays one. -/
theorem isAutomation_of_check {check : FieldSet Check} {node : Node} {result : Value}
    (accepted : check.check node = .ok result) (automation : Check.isAutomation node.value = true) :
    Check.isAutomation result = true := by
  obtain ⟨entries, results, whole, rfl, keys, -, -⟩ := check_gives accepted
  rw [whole, Check.isAutomation, Entries.contains_iff_mem_keys] at automation
  rw [Check.isAutomation, Entries.contains_iff_mem_keys, keys]
  exact List.mem_append_left _ automation

end FieldSet

namespace Schema

/-- Whether the steps are those of a mapping that may be written as the value under its `id`. -/
def areSimpleId : List Schema → Bool
  | [coerce .simpleId, fields _] => true
  | _ => false

/-- Whether the schema itself, regardless of its parts, normalizes what it accepts. -/
def isStable : Schema → Bool
  | fields set => set.isStable
  | automation set => set.isStable
  | dispatch key choices =>
    choices.all fun choice => choice.2.isStable && choice.2.isText key
  | allOf steps => areSimpleId steps
  | anyOf _ => false
  | _ => true

variable {rules : Rule → Check}

theorem steps_of_areSimpleId {steps : List Schema} (simple : areSimpleId steps = true) :
    ∃ set, steps = [coerce .simpleId, fields set] := by
  unfold areSimpleId at simple
  split at simple
  · exact ⟨_, rfl⟩
  · cases simple

theorem normal_of_checkWith
    (sound : ∀ rule node value, rules rule node = .ok value → Normal rule.schema value)
    (schema : Schema) (stable : schema.everywhere isStable = true) (node : Node) (value : Value)
    (accepted : schema.checkWith rules node = .ok value) : schema.Normal value := by
  -- the rules contain themselves, so what they make of values is taken for granted here
  induction schema using Schema.induct generalizing node value with
  | step schema ih =>
    obtain ⟨here, inside⟩ := everywhere_iff.mp stable
    have each : ∀ part ∈ schema.parts, ∀ node value, part.checkWith rules node = .ok value →
        part.Normal value :=
      fun part member => ih part member (inside part member)
    clear ih inside stable
    cases reads : schema.reading? with
    | some read =>
      rw [checkWith_of_reading rules reads] at accepted
      have settled := settles_of_reading reads _ _ (Check.ofScalar_eq_ok_iff.mp accepted)
      exact .scalar reads settled
    | none =>
      cases schema with
      | any => exact .any _
      | templatable inner =>
        rcases Check.templatable_gives accepted with ⟨code, -, rfl⟩ | ⟨path, given⟩
        · exact .lambda inner code
        · exact .literal (each inner (List.mem_singleton_self _) _ _ given)
      | oneOrMany inner =>
        obtain ⟨items, rfl, origin⟩ := Check.oneOrMany_gives accepted
        refine .oneOrMany fun item member => ?_
        obtain ⟨part, -, path, given⟩ := origin item member
        exact each inner (List.mem_singleton_self _) _ _ given
      | listOf inner =>
        obtain ⟨items, rfl, origin⟩ := Check.listOf_gives accepted
        refine .listOf fun item member => ?_
        obtain ⟨part, -, path, given⟩ := origin item member
        exact each inner (List.mem_singleton_self _) _ _ given
      | fields set =>
        rw [checkWith_fields] at accepted
        exact FieldSet.normal_of_check here each accepted
      | allOf steps =>
        obtain ⟨set, rfl⟩ := steps_of_areSimpleId here
        rw [checkWith, checks_eq] at accepted
        obtain ⟨before, -, given⟩ := Check.allOf_withSimpleId accepted
        have normal := each (fields set) (by simp [parts]) _ _ given
        refine .allOf fun step member => ?_
        rcases List.mem_cons.mp member with rfl | last
        · obtain ⟨entries, rfl⟩ := normal.exists_map
          exact .scalar rfl rfl
        · cases List.mem_singleton.mp last
          exact normal
      | anyOf options => cases here
      | invalid message => cases accepted
      | dispatch key choices =>
        rw [checkWith] at accepted
        obtain ⟨entries, selector, check, whole, present, found, given⟩ := Check.dispatch_gives accepted
        rw [find?_choiceChecks] at found
        obtain ⟨set, chosen, rfl⟩ := Option.map_eq_some_iff.mp found
        have choice := Entries.mem_of_get? chosen
        obtain ⟨ownStable, isText⟩ := Bool.and_eq_true_iff.mp (List.all_eq_true.mp here _ choice)
        have normal := FieldSet.normal_of_check ownStable
          (fun part member => each part (List.mem_flatMap.mpr ⟨_, choice, member⟩)) given
        obtain ⟨path, start⟩ := node
        obtain rfl : start = .map entries := whole
        obtain ⟨results, rfl⟩ := normal.exists_map
        obtain ⟨after, kept, same⟩ := FieldSet.scalarText_of_isText isText given present
        exact .dispatch kept (same ▸ chosen) normal
      | singleKey kind entries =>
        rw [checkWith] at accepted
        obtain ⟨key, before, after, check, -, found, ⟨path, given⟩, rfl⟩ := Check.singleKey_gives accepted
        rw [find?_entryChecks] at found
        obtain ⟨schema, chosen, rfl⟩ := Option.map_eq_some_iff.mp found
        have member : schema ∈ (singleKey kind entries).parts :=
          List.mem_map_of_mem (f := (·.2)) (Entries.mem_of_get? chosen)
        exact .singleKey chosen (each schema member _ _ given)
      | automation set =>
        rw [checkWith_automation] at accepted
        obtain ⟨items, rfl, some, origin⟩ := Check.automation_gives accepted
        refine .automation some (fun item member => ?_) fun item member => ?_
        · obtain ⟨part, -, automation, path, given⟩ := origin item member
          exact FieldSet.isAutomation_of_check given automation
        · obtain ⟨part, -, -, path, given⟩ := origin item member
          exact FieldSet.normal_of_check here each given
      | recursive rule => exact .recursive (sound rule node value accepted)
      | _ => cases reads

end Schema

theorem Rule.isStable_schema (rule : Rule) : rule.schema.everywhere Schema.isStable = true := by
  cases rule <;> rfl

theorem Rule.normal_of_checkWithin {bound : Nat} (rule : Rule) (node : Node) (value : Value)
    (accepted : rule.checkWithin bound node = .ok value) : rule.schema.Normal value := by
  induction bound generalizing rule node value with
  | zero => cases accepted
  | succ bound ih => exact Schema.normal_of_checkWith ih _ rule.isStable_schema node value accepted

/-- What a check makes of a value is in normal form. -/
theorem Schema.normal_of_check {schema : Schema} (stable : schema.everywhere Schema.isStable = true)
    {node : Node} {value : Value} (accepted : schema.check node = .ok value) : schema.Normal value :=
  normal_of_checkWith (fun _ _ _ => Rule.normal_of_checkWithin _ _ _) schema stable node value accepted

end DeviceConfig
