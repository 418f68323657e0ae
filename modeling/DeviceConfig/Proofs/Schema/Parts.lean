import DeviceConfig.Schema.Basic

/-!
The schemas that a schema is made of. A property of schemas holds everywhere in a schema if it holds of
the schema and everywhere in its parts (`Schema.everywhere_iff`).
-/

namespace DeviceConfig

namespace FieldSet

/-- What is expected of the values of the keys. -/
def expectations (set : FieldSet Schema) : List Schema := set.fields.map (·.expected)

theorem expected_mem {set : FieldSet Schema} {field : Field Schema} (member : field ∈ set.fields) :
    field.expected ∈ set.expectations := List.mem_map_of_mem member

end FieldSet

namespace Schema

/-- The schemas inside a schema. Those of a recursive rule are not counted. -/
def parts : Schema → List Schema
  | templatable inner => [inner]
  | oneOrMany inner => [inner]
  | listOf inner => [inner]
  | fields set => set.expectations
  | allOf steps => steps
  | anyOf options => options
  | dispatch _ choices => choices.flatMap fun choice => choice.2.expectations
  | singleKey _ entries => entries.map (·.2)
  | automation set => set.expectations
  | _ => []

theorem sizeOf_expected_lt {set : FieldSet Schema} {schema : Schema} (member : schema ∈ set.expectations) :
    sizeOf schema < sizeOf set := by
  obtain ⟨field, inside, rfl⟩ := List.mem_map.mp member
  obtain ⟨known, exclusive, extra⟩ := set
  have smaller := List.sizeOf_lt_of_mem inside
  obtain ⟨key, presence, expected⟩ := field
  simp only [Field.mk.sizeOf_spec, FieldSet.mk.sizeOf_spec] at smaller ⊢
  omega

theorem sizeOf_part_lt {schema part : Schema} (member : part ∈ schema.parts) :
    sizeOf part < sizeOf schema := by
  cases schema with
  | templatable inner =>
    obtain rfl : part = inner := List.mem_singleton.mp member
    rw [templatable.sizeOf_spec]
    omega
  | oneOrMany inner =>
    obtain rfl : part = inner := List.mem_singleton.mp member
    rw [oneOrMany.sizeOf_spec]
    omega
  | listOf inner =>
    obtain rfl : part = inner := List.mem_singleton.mp member
    rw [listOf.sizeOf_spec]
    omega
  | fields set =>
    have smaller := sizeOf_expected_lt member
    rw [fields.sizeOf_spec]
    omega
  | allOf steps =>
    have smaller : sizeOf part < sizeOf steps := List.sizeOf_lt_of_mem member
    rw [allOf.sizeOf_spec]
    omega
  | anyOf options =>
    have smaller : sizeOf part < sizeOf options := List.sizeOf_lt_of_mem member
    rw [anyOf.sizeOf_spec]
    omega
  | dispatch key choices =>
    obtain ⟨⟨name, set⟩, inside, held⟩ := List.mem_flatMap.mp member
    have smaller := List.sizeOf_lt_of_mem inside
    have smallest : sizeOf part < sizeOf set := sizeOf_expected_lt held
    rw [Prod.mk.sizeOf_spec] at smaller
    rw [dispatch.sizeOf_spec]
    omega
  | singleKey kind entries =>
    obtain ⟨⟨key, schema⟩, inside, same⟩ := List.mem_map.mp member
    obtain rfl : schema = part := same
    have smaller := List.sizeOf_lt_of_mem inside
    rw [Prod.mk.sizeOf_spec] at smaller
    rw [singleKey.sizeOf_spec]
    omega
  | automation set =>
    have smaller := sizeOf_expected_lt member
    rw [automation.sizeOf_spec]
    omega
  | _ => cases member

/-- A property of all schemas that a schema has if all its parts have it. -/
@[elab_as_elim]
theorem induct {motive : Schema → Prop}
    (step : ∀ schema, (∀ part ∈ schema.parts, motive part) → motive schema) (schema : Schema) :
    motive schema :=
  step schema fun part _ => induct step part
termination_by sizeOf schema
decreasing_by exact sizeOf_part_lt (by assumption)

variable (holds : Schema → Bool)

mutual

/-- Whether the property holds of the schema and of all schemas inside it. -/
def everywhere : Schema → Bool
  | templatable inner => holds (templatable inner) && everywhere inner
  | oneOrMany inner => holds (oneOrMany inner) && everywhere inner
  | listOf inner => holds (listOf inner) && everywhere inner
  | fields ⟨known, exclusive, extra⟩ =>
    holds (fields ⟨known, exclusive, extra⟩) && everywhereInFields known
  | allOf steps => holds (allOf steps) && everywhereInAll steps
  | anyOf options => holds (anyOf options) && everywhereInAll options
  | dispatch key choices => holds (dispatch key choices) && everywhereInChoices choices
  | singleKey kind entries => holds (singleKey kind entries) && everywhereInEntries entries
  | automation ⟨known, exclusive, extra⟩ =>
    holds (automation ⟨known, exclusive, extra⟩) && everywhereInFields known
  | schema => holds schema

def everywhereInAll : List Schema → Bool
  | [] => true
  | schema :: rest => everywhere schema && everywhereInAll rest

def everywhereInFields : List (Field Schema) → Bool
  | [] => true
  | ⟨_, _, schema⟩ :: rest => everywhere schema && everywhereInFields rest

def everywhereInEntries : List (String × Schema) → Bool
  | [] => true
  | (_, schema) :: rest => everywhere schema && everywhereInEntries rest

def everywhereInChoices : List (String × FieldSet Schema) → Bool
  | [] => true
  | (_, ⟨known, _, _⟩) :: rest => everywhereInFields known && everywhereInChoices rest

end

variable {holds}

theorem everywhereInAll_iff {schemas : List Schema} :
    everywhereInAll holds schemas = true ↔ ∀ schema ∈ schemas, schema.everywhere holds = true := by
  induction schemas with
  | nil => simp [everywhereInAll]
  | cons schema rest ih => rw [everywhereInAll, Bool.and_eq_true, ih, List.forall_mem_cons]

theorem everywhereInFields_iff {fields : List (Field Schema)} :
    everywhereInFields holds fields = true ↔
      ∀ part ∈ fields.map (·.expected), part.everywhere holds = true := by
  induction fields with
  | nil => simp [everywhereInFields]
  | cons field rest ih =>
    rw [everywhereInFields, Bool.and_eq_true, ih, List.map_cons, List.forall_mem_cons]

theorem everywhereInEntries_iff {entries : List (String × Schema)} :
    everywhereInEntries holds entries = true ↔
      ∀ part ∈ entries.map (·.2), part.everywhere holds = true := by
  induction entries with
  | nil => simp [everywhereInEntries]
  | cons entry rest ih =>
    rw [everywhereInEntries, Bool.and_eq_true, ih, List.map_cons, List.forall_mem_cons]

theorem everywhereInChoices_iff {choices : List (String × FieldSet Schema)} :
    everywhereInChoices holds choices = true ↔
      ∀ part ∈ choices.flatMap (fun choice => choice.2.expectations), part.everywhere holds = true := by
  induction choices with
  | nil => simp [everywhereInChoices]
  | cons choice rest ih =>
    rw [everywhereInChoices, Bool.and_eq_true, ih, everywhereInFields_iff, List.flatMap_cons,
      List.forall_mem_append]
    rfl

theorem everywhere_iff {schema : Schema} :
    schema.everywhere holds = true ↔
      holds schema = true ∧ ∀ part ∈ schema.parts, part.everywhere holds = true := by
  cases schema with
  | templatable inner => simp [everywhere, parts]
  | oneOrMany inner => simp [everywhere, parts]
  | listOf inner => simp [everywhere, parts]
  | fields set => rw [everywhere, Bool.and_eq_true, everywhereInFields_iff]; rfl
  | allOf steps => rw [everywhere, Bool.and_eq_true, everywhereInAll_iff]; rfl
  | anyOf options => rw [everywhere, Bool.and_eq_true, everywhereInAll_iff]; rfl
  | dispatch key choices => rw [everywhere, Bool.and_eq_true, everywhereInChoices_iff]; rfl
  | singleKey kind entries => rw [everywhere, Bool.and_eq_true, everywhereInEntries_iff]; rfl
  | automation set => rw [everywhere, Bool.and_eq_true, everywhereInFields_iff]; rfl
  | _ => simp [everywhere, parts]

end Schema

end DeviceConfig
