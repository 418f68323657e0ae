import DeviceConfig.Proofs.Schema.Naming

/-!
The shapes of values in normal form, and the identifiers that stand in them.
-/

namespace DeviceConfig.Schema

variable {value : Value}

theorem Normal.exists_lambda (normal : Normal .lambda value) : ∃ code, value = .lambda code := by
  cases normal with
  | scalar reads same =>
    cases reads
    cases value <;> cases same
    exact ⟨_, rfl⟩

theorem Normal.exists_duration (normal : Normal .duration value) : ∃ period, value = .duration period := by
  cases normal with
  | scalar reads same =>
    cases reads
    cases value with
    | duration period => exact ⟨period, rfl⟩
    | string s =>
      have read : Scalar.duration (.string s) = .ok (.string s) := same
      rw [Scalar.duration] at read
      split at read <;> cases read
    | _ => cases same

theorem Normal.exists_string (normal : Normal .string value) : ∃ s, value = .string s := by
  cases normal with
  | scalar reads same =>
    cases reads
    obtain ⟨s, -, rfl⟩ := map_eq_ok_iff.mp same
    exact ⟨s, rfl⟩

theorem Normal.exists_name (normal : Normal .name value) : ∃ s, value = .string s := by
  cases normal with
  | scalar reads same =>
    cases reads
    obtain ⟨s, -, written⟩ := bind_eq_ok_iff.mp same
    simp only [guard_eq_ok_iff] at written
    obtain ⟨-, valid⟩ := written
    split at valid <;> cases valid
    exact ⟨s, rfl⟩

theorem Normal.exists_declared {type : CppType} (normal : Normal (.declareId type) value) :
    ∃ id, value = .id id ∧ Scalar.Admits type .declared id := by
  cases normal with
  | scalar reads same =>
    cases reads
    exact Scalar.identifier_gives same

theorem Normal.exists_used {type : CppType} (normal : Normal (.useId type) value) :
    ∃ id, value = .id id ∧ Scalar.Admits type .used id := by
  cases normal with
  | scalar reads same =>
    cases reads
    exact Scalar.identifier_gives same

theorem Normal.exists_list {inner : Schema} (normal : Normal (.oneOrMany inner) value) :
    ∃ items, value = .list items ∧ ∀ item ∈ items, inner.Normal item := by
  cases normal with
  | scalar reads => cases reads
  | oneOrMany each => exact ⟨_, rfl, each⟩

theorem Normal.automations {set : FieldSet Schema} (normal : Normal (.automation set) value) :
    ∃ items, value = .list items ∧ ∀ item ∈ items, Normal (.fields set) item := by
  cases normal with
  | scalar reads => cases reads
  | automation some automations each => exact ⟨_, rfl, each⟩

theorem Normal.templated {inner : Schema} (normal : Normal (.templatable inner) value) :
    (∃ code, value = .lambda code) ∨ inner.Normal value := by
  cases normal with
  | scalar reads => cases reads
  | lambda inner code => exact .inl ⟨code, rfl⟩
  | literal own => exact .inr own

theorem Normal.of_recursive {rule : Rule} (normal : Normal (.recursive rule) value) : rule.schema.Normal value := by
  cases normal with
  | scalar reads => cases reads
  | recursive own => exact own

theorem Normal.single {kind : String} {entries : List (String × Schema)} (normal : Normal (.singleKey kind entries) value) :
    ∃ key schema inner, value = .map [(key, inner)] ∧ Entries.get? key entries = some schema ∧
      schema.Normal inner := by
  cases normal with
  | scalar reads => cases reads
  | singleKey chosen own => exact ⟨_, _, _, rfl, chosen, own⟩

theorem Normal.dispatched {key : String} {choices : List (String × FieldSet Schema)}
    (normal : Normal (.dispatch key choices) value) :
    ∃ entries selector set, value = .map entries ∧ Entries.get? key entries = some selector ∧
      Entries.get? (selector.scalarText?.getD "") choices = some set ∧ Normal (.fields set) (.map entries) := by
  cases normal with
  | scalar reads => cases reads
  | dispatch present chosen own => exact ⟨_, _, _, rfl, present, chosen, own⟩

theorem Normal.of_withSimpleId {set : FieldSet Schema} (normal : (Schema.withSimpleId set).Normal value) :
    Normal (.fields set) value := by
  cases normal with
  | scalar reads => cases reads
  | allOf each => exact each _ (List.mem_cons_of_mem _ (List.mem_singleton_self _))

section Fields

variable {set : FieldSet Schema} {entries : Entries Value} {key : String} {field : Field Schema}

theorem Normal.entry (normal : Normal (.fields set) (.map entries))
    (found : FieldSet.find? key set.fields = some field) {inner : Value}
    (present : Entries.get? key entries = some inner) : field.expected.Normal inner := by
  cases normal with
  | scalar reads => cases reads
  | fields groups complete known each => exact each _ (Entries.mem_of_get? present) field found

theorem Normal.needed (normal : Normal (.fields set) (.map entries))
    (found : FieldSet.find? key set.fields = some field) (needed : field.presence.isOptional = false) :
    ∃ inner, Entries.get? key entries = some inner ∧ field.expected.Normal inner := by
  obtain ⟨member, rfl⟩ := FieldSet.find?_mem found
  have present : field.key ∈ Entries.keys entries := by
    cases normal with
    | scalar reads => cases reads
    | fields groups complete known each => exact complete field member needed
  obtain ⟨inner, held⟩ := Entries.exists_get?_of_mem_keys present
  exact ⟨inner, held, normal.entry found held⟩

end Fields

end DeviceConfig.Schema
