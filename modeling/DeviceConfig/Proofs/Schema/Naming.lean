import DeviceConfig.Proofs.Identifiers.Naming
import DeviceConfig.Proofs.Program.Names
import DeviceConfig.Proofs.Schema.Normalization

/-!
Naming made-up identifiers keeps normal forms (`Schema.Normal.rename`), if the types of declared objects
give names of the generated program.
-/

namespace DeviceConfig

namespace Schema

/-- Whether an object that is declared here gets a proper name if the user gave none. -/
def namesWell : Schema → Bool
  | declareId type => Cpp.isName type.nameHint
  | _ => true

theorem Rule.namesWell_schema (rule : Rule) : rule.schema.everywhere namesWell = true := by
  cases rule <;> rfl

section Readings

variable {schema : Schema} {read : Value → Scalar.Read}

theorem admits_of_reading (reads : schema.reading? = some read) {i : ObjectId}
    (same : read (.id i) = .ok (.id i)) :
    (∃ type, schema = declareId type ∧ Scalar.Admits type .declared i) ∨
      ∃ type, schema = useId type ∧ Scalar.Admits type .used i := by
  have admits {type : CppType} {role : IdRole} (same : Scalar.identifier type role (.id i) = .ok (.id i)) :
      Scalar.Admits type role i := by
    obtain ⟨id, equal, admits⟩ := Scalar.identifier_gives same
    cases equal
    exact admits
  cases schema <;> cases reads
  case declareId type => exact .inl ⟨type, rfl, admits same⟩
  case useId type => exact .inr ⟨type, rfl, admits same⟩
  case coerce coercion => cases coercion <;> cases same
  all_goals cases same

theorem not_list_of_reading (reads : schema.reading? = some read) {items : List Value} :
    read (.list items) ≠ .ok (.list items) := by
  intro same
  cases schema <;> cases reads
  case coerce coercion => cases coercion <;> cases same
  all_goals cases same

theorem coerce_of_reading (reads : schema.reading? = some read) {entries : Entries Value}
    (same : read (.map entries) = .ok (.map entries)) : schema = coerce .simpleId := by
  cases schema <;> cases reads
  case coerce coercion => cases coercion <;> first | rfl | cases same
  all_goals cases same

end Readings

theorem admits_rename {type : CppType} {i j : ObjectId} (named : Cpp.isName type.nameHint = true)
    (renames : i.Renames j) (admits : Scalar.Admits type .declared i) : Scalar.Admits type .declared j := by
  by_cases made : i.role = .generated
  · have madeToo := renames.role_eq.trans made
    obtain ⟨taken, rfl⟩ := renames
    rw [ObjectId.rename_generated made, admits.type_eq]
    exact ⟨rfl, Cpp.isName_fresh named taken, admits.role_eq, fun other => absurd made other⟩
  · rw [renames.eq_of_role made]
    exact admits

theorem scalarText_rename {value result : Value} (renames : value.Renames result) :
    result.scalarText? = value.scalarText? := by
  cases renames <;> rfl

theorem isAutomation_rename {value result : Value} (renames : value.Renames result) :
    Check.isAutomation result = Check.isAutomation value := by
  cases renames with
  | map keys values =>
    rw [Check.isAutomation, Check.isAutomation, Bool.eq_iff_iff, Entries.contains_iff_mem_keys,
      Entries.contains_iff_mem_keys, keys]
  | _ => rfl

theorem get?_rename {entries results : Entries Value} (pairs : List.Forall₂ EntryRenames entries results)
    {key : String} {value : Value} (present : Entries.get? key entries = some value) :
    ∃ after, Entries.get? key results = some after ∧ value.Renames after := by
  induction pairs with
  | nil => cases present
  | @cons entry result rest others first _ ih =>
    obtain ⟨sameKey, related⟩ := first
    rw [Entries.get?] at present ⊢
    rw [sameKey]
    by_cases here : (entry.1 == key) = true
    · rw [if_pos here] at present ⊢
      cases present
      exact ⟨_, rfl, related⟩
    · rw [if_neg here] at present ⊢
      exact ih present

theorem rename_fields {set : FieldSet Schema} {entries results : Entries Value}
    (normal : (fields set).Normal (.map entries)) (pairs : List.Forall₂ EntryRenames entries results)
    (keys : Entries.keys results = Entries.keys entries)
    (each : ∀ entry ∈ entries, ∀ field, FieldSet.find? entry.1 set.fields = some field →
      ∀ after, entry.2.Renames after → field.expected.Normal after) :
    (fields set).Normal (.map results) := by
  cases normal with
  | scalar reads => cases reads
  | fields groups complete known _ =>
    refine .fields (fun group member => ?_) (keys ▸ complete) (keys ▸ known) ?_
    · have same : FieldSet.presentKeys group results = FieldSet.presentKeys group entries := by
        refine List.filter_congr fun key _ => ?_
        rw [Bool.eq_iff_iff, Entries.contains_iff_mem_keys, Entries.contains_iff_mem_keys, keys]
      rw [same]
      exact groups group member
    · refine forall_mem_of_forall₂ pairs fun entry member after both field found => ?_
      obtain ⟨sameKey, related⟩ := both
      rw [sameKey] at found
      exact each entry member field found after.2 related

theorem Normal.rename {schema : Schema} {value result : Value} (normal : schema.Normal value)
    (well : schema.everywhere namesWell = true) (renames : value.Renames result) :
    schema.Normal result := by
  induction normal generalizing result with
  | any value => exact .any result
  | @scalar schema read value reads same =>
    cases renames with
    | id renamed =>
      obtain ⟨here, -⟩ := everywhere_iff.mp well
      rcases admits_of_reading reads same with ⟨type, rfl, admits⟩ | ⟨type, rfl, admits⟩
      · exact .scalar rfl (Scalar.identifier_of_admits (admits_rename here renamed admits))
      · have used := admits.role_eq.resolve_right fun both => nomatch both.2
        have kept := renamed.eq_of_role (by rw [used]; exact IdRole.noConfusion)
        rw [kept]
        exact .scalar rfl (Scalar.identifier_of_admits admits)
    | list => exact absurd same (not_list_of_reading reads)
    | map =>
      cases coerce_of_reading reads same
      exact .scalar rfl rfl
    | scalar => exact .scalar reads same
  | lambda inner code =>
    cases renames with
    | scalar => exact .lambda inner code
  | literal _ ih =>
    obtain ⟨-, inside⟩ := everywhere_iff.mp well
    exact .literal (ih (inside _ (List.mem_singleton_self _)) renames)
  | oneOrMany _ ih =>
    obtain ⟨-, inside⟩ := everywhere_iff.mp well
    cases renames with
    | list pairs =>
      refine .oneOrMany (forall_mem_of_forall₂ pairs fun item member _ related => ?_)
      exact ih item member (inside _ (List.mem_singleton_self _)) related
    | scalar scalar => cases scalar
  | listOf _ ih =>
    obtain ⟨-, inside⟩ := everywhere_iff.mp well
    cases renames with
    | list pairs =>
      refine .listOf (forall_mem_of_forall₂ pairs fun item member _ related => ?_)
      exact ih item member (inside _ (List.mem_singleton_self _)) related
    | scalar scalar => cases scalar
  | @fields set entries groups complete known each ih =>
    obtain ⟨-, inside⟩ := everywhere_iff.mp well
    cases renames with
    | map keys values =>
      have pairs := Value.renames_map_iff.mp (.map keys values)
      refine rename_fields (.fields groups complete known each) pairs keys fun entry member field found => ?_
      have part := FieldSet.expected_mem (FieldSet.find?_mem found).1
      exact fun _ => ih entry member field found (inside _ part)
    | scalar scalar => cases scalar
  | allOf _ ih =>
    obtain ⟨-, inside⟩ := everywhere_iff.mp well
    exact .allOf fun step member => ih step member (inside step member) renames
  | @dispatch key choices entries selector set present chosen _ ih =>
    obtain ⟨-, inside⟩ := everywhere_iff.mp well
    have choice := Entries.mem_of_get? chosen
    have ownWell : (Schema.fields set).everywhere namesWell = true :=
      everywhere_iff.mpr ⟨rfl, fun part member => inside part (List.mem_flatMap.mpr ⟨_, choice, member⟩)⟩
    have own := ih ownWell renames
    cases renames with
    | map keys values =>
      have pairs := Value.renames_map_iff.mp (.map keys values)
      obtain ⟨after, kept, related⟩ := get?_rename pairs present
      refine .dispatch kept ?_ own
      rwa [scalarText_rename related]
    | scalar scalar => cases scalar
  | @singleKey kind key entries schema value chosen _ ih =>
    obtain ⟨-, inside⟩ := everywhere_iff.mp well
    have part : schema ∈ (Schema.singleKey kind entries).parts :=
      List.mem_map_of_mem (f := (·.2)) (Entries.mem_of_get? chosen)
    cases renames with
    | map keys values =>
      have pairs := Value.renames_map_iff.mp (.map keys values)
      cases pairs with
      | @cons _ entry _ _ first rest =>
        cases rest
        obtain ⟨otherKey, after⟩ := entry
        obtain ⟨same, related⟩ := first
        obtain rfl : otherKey = key := same
        exact .singleKey chosen (ih (inside _ part) related)
    | scalar scalar => cases scalar
  | @automation set items some automations _ ih =>
    obtain ⟨-, inside⟩ := everywhere_iff.mp well
    have ownWell : (Schema.fields set).everywhere namesWell = true := everywhere_iff.mpr ⟨rfl, inside⟩
    cases renames with
    | @list _ results pairs =>
      refine .automation ?_ (forall_mem_of_forall₂ pairs fun item member _ related => ?_)
        (forall_mem_of_forall₂ pairs fun item member _ related => ih item member ownWell related)
      · rintro rfl
        cases pairs
        exact some rfl
      · rw [isAutomation_rename related]
        exact automations item member
    | scalar scalar => cases scalar
  | @recursive rule value _ ih => exact .recursive (ih (Rule.namesWell_schema rule) renames)

end Schema

end DeviceConfig
