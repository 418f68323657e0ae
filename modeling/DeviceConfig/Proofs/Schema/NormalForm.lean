import DeviceConfig.Proofs.Schema.Recursion

/-!
Normal forms: the values that a schema leaves as they are. `Schema.Normal` describes them without any
check, along the structure of the schema, and `Normal.check_eq` is that the check does leave them.
-/

namespace DeviceConfig

namespace Schema

/-- The reading of a schema that is only about scalars. -/
def reading? : Schema → Option (Value → Scalar.Read)
  | boolean => some Scalar.boolean
  | int least most => some (Scalar.int least most)
  | float least most => some (Scalar.float least most)
  | string => some Scalar.string
  | writtenString => some Scalar.writtenString
  | name => some Scalar.name
  | oneOf choices => some (Scalar.oneOf choices)
  | duration => some Scalar.duration
  | quantity unit => some (Scalar.quantity unit)
  | lambda => some Scalar.lambda
  | declareId type => some (Scalar.identifier type .declared)
  | useId type => some (Scalar.identifier type .used)
  | coerce coercion => some (Scalar.coerce coercion)
  | _ => none

theorem checkWith_of_reading {schema : Schema} {read : Value → Scalar.Read} (rules : Rule → Check)
    (reads : schema.reading? = some read) : schema.checkWith rules = .ofScalar read := by
  cases schema <;> cases reads <;> rw [checkWith]

/-- The value is as the schema wants it, and so are all its parts. -/
inductive Normal : Schema → Value → Prop where
  | any (value : Value) : Normal .any value
  | scalar {schema : Schema} {read : Value → Scalar.Read} {value : Value} :
    schema.reading? = some read → read value = .ok value → Normal schema value
  | lambda (inner : Schema) (code : String) : Normal (.templatable inner) (.lambda code)
  | literal {inner : Schema} {value : Value} : Normal inner value → Normal (.templatable inner) value
  | oneOrMany {inner : Schema} {items : List Value} :
    (∀ item ∈ items, Normal inner item) → Normal (.oneOrMany inner) (.list items)
  | listOf {inner : Schema} {items : List Value} :
    (∀ item ∈ items, Normal inner item) → Normal (.listOf inner) (.list items)
  | fields {set : FieldSet Schema} {entries : Entries Value} :
    (∀ group ∈ set.exclusive, (FieldSet.presentKeys group entries).length ≤ 1) →
    (∀ field ∈ set.fields, field.presence.isOptional = false → field.key ∈ Entries.keys entries) →
    (∀ key ∈ Entries.keys entries, FieldSet.find? key set.fields = none → set.allowsExtra = true) →
    (∀ entry ∈ entries, ∀ field, FieldSet.find? entry.1 set.fields = some field →
      Normal field.expected entry.2) →
    Normal (.fields set) (.map entries)
  | allOf {steps : List Schema} {value : Value} :
    (∀ step ∈ steps, Normal step value) → Normal (.allOf steps) value
  | dispatch {key : String} {choices : List (String × FieldSet Schema)} {entries : Entries Value}
    {selector : Value} {set : FieldSet Schema} :
    Entries.get? key entries = some selector →
    Entries.get? (selector.scalarText?.getD "") choices = some set →
    Normal (.fields set) (.map entries) → Normal (.dispatch key choices) (.map entries)
  | singleKey {kind key : String} {entries : List (String × Schema)} {schema : Schema} {value : Value} :
    Entries.get? key entries = some schema → Normal schema value →
    Normal (.singleKey kind entries) (.map [(key, value)])
  | automation {set : FieldSet Schema} {items : List Value} :
    items ≠ [] → (∀ item ∈ items, Check.isAutomation item = true) →
    (∀ item ∈ items, Normal (.fields set) item) → Normal (.automation set) (.list items)
  | recursive {rule : Rule} {value : Value} :
    Normal rule.schema value → Normal (.recursive rule) value

end Schema

theorem Check.allOf_stays {checks : List Check} {node : Node}
    (stay : ∀ check ∈ checks, check node = .ok node.value) : allOf checks node = .ok node.value := by
  induction checks with
  | nil => rfl
  | cons check rest ih =>
    have first := stay check (List.mem_cons_self ..)
    have others := ih fun other member => stay other (List.mem_cons_of_mem _ member)
    simp only [allOf, first, others]

theorem Check.automation_stays {check : Check} {items : List Value} (some : items ≠ [])
    (automations : ∀ item ∈ items, isAutomation item = true)
    (stay : ∀ item ∈ items, ∀ path, check ⟨path, item⟩ = .ok item) (path : Path) :
    automation check ⟨path, .list items⟩ = .ok (.list items) := by
  have written : (!items.isEmpty && items.all isAutomation) = true := by
    rw [Bool.and_eq_true, Bool.not_eq_true', List.all_eq_true]
    exact ⟨List.isEmpty_eq_false_iff.mpr some, automations⟩
  have kept := items_list stay path
  unfold automation automations?
  simp only [written, if_true]
  exact kept

theorem Check.singleKey_stays {kind key : String} {choices : List (String × Check)} {check : Check}
    {value : Value} (found : find? key choices = some check)
    (stay : ∀ path, check ⟨path, value⟩ = .ok value) (path : Path) :
    singleKey kind choices ⟨path, .map [(key, value)]⟩ = .ok (.map [(key, value)]) := by
  unfold singleKey
  simp only [found, stay]

theorem Schema.Normal.exists_map {set : FieldSet Schema} {value : Value}
    (normal : (Schema.fields set).Normal value) : ∃ entries, value = .map entries := by
  cases normal with
  | scalar reads => cases reads
  | fields => exact ⟨_, rfl⟩

/-- What is in normal form is accepted and stays as it is. -/
theorem Schema.Normal.check_eq {schema : Schema} {value : Value} (normal : schema.Normal value)
    (path : Path) : schema.check ⟨path, value⟩ = .ok value := by
  induction normal generalizing path with
  | any value => rfl
  | scalar reads same =>
    rw [Schema.check, checkWith_of_reading _ reads]
    exact Check.ofScalar_eq_ok_iff.mpr same
  | lambda inner code => rfl
  | @literal inner value _ ih =>
    have stays : inner.checkWith Rule.check ⟨path, value⟩ = .ok value := ih path
    rw [Schema.check, checkWith, Check.templatable]
    split
    · rename_i same
      exact congrArg Except.ok same.symm
    · exact stays
  | oneOrMany _ ih => exact Check.items_list ih path
  | listOf _ ih => exact Check.items_list ih path
  | @fields set entries groups complete known _ ih =>
    rw [Schema.check, checkWith_fields]
    refine FieldSet.check_map groups ?_ ?_ ?_ path
    · intro field member expected
      obtain ⟨own, inside, rfl⟩ := List.mem_map.mp member
      exact complete own inside expected
    · intro key member unknown
      rw [FieldSet.toChecks, FieldSet.find?_toCheck, Option.map_eq_none_iff] at unknown
      exact known key member unknown
    · intro entry member field found place
      rw [FieldSet.toChecks, FieldSet.find?_toCheck] at found
      obtain ⟨own, same, rfl⟩ := Option.map_eq_some_iff.mp found
      exact ih entry member own same place
  | @allOf steps value _ ih =>
    rw [Schema.check, checkWith, checks_eq]
    have stay : ∀ check ∈ steps.map (checkWith Rule.check), check ⟨path, value⟩ = .ok value := by
      intro check member
      obtain ⟨step, inside, rfl⟩ := List.mem_map.mp member
      exact ih step inside path
    exact Check.allOf_stays stay
  | dispatch present chosen _ ih =>
    have stays := ih path
    rw [Schema.check, checkWith_fields] at stays
    rw [Schema.check, checkWith, Check.dispatch]
    simp only [present, find?_choiceChecks, chosen, Option.map_some]
    exact stays
  | @singleKey kind key entries schema value chosen _ ih =>
    rw [Schema.check, checkWith]
    refine Check.singleKey_stays ?_ ih path
    rw [find?_entryChecks, chosen, Option.map_some]
    rfl
  | automation some automations _ ih =>
    rw [Schema.check, checkWith_automation]
    refine Check.automation_stays some automations (fun item member place => ?_) path
    have stays := ih item member place
    rwa [Schema.check, checkWith_fields] at stays
  | @recursive rule value _ ih =>
    rw [Schema.check, checkWith, Rule.check_eq]
    exact ih path

end DeviceConfig
