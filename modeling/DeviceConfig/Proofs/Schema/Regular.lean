import DeviceConfig.Proofs.Schema.Built
import DeviceConfig.Proofs.Schema.Normalization
import Mathlib.Tactic.FinCases

/-!
The schemas whose check leaves its own results as they are (`Schema.IsRegular.check_check`). They have no
alternatives and no steps but the one of a mapping that may be written as the value under its `id`; what
they fill in breaks no group of exclusive keys.
-/

namespace DeviceConfig

namespace Presence

/-- Whether a value takes the place of the key where it is missing. -/
def isFilled : Presence → Bool
  | default _ => true
  | generatedId _ => true
  | _ => false

/-- The type of the object whose identifier is made up where the key is missing. -/
def generated? : Presence → Option CppType
  | generatedId type => some type
  | _ => none

end Presence

namespace FieldSet

/-- The set is made by the operations on sets. No key that is filled in is in a group of exclusive keys,
    and made-up identifiers can be called after their types. -/
structure IsRegular (set : FieldSet Schema) : Prop where
  built : set.IsBuilt
  apart : ∀ field ∈ set.fields, field.presence.isFilled = true → ∀ group ∈ set.exclusive, field.key ∉ group
  named : ∀ field ∈ set.fields, ∀ type ∈ field.presence.generated?, Cpp.isName type.nameHint = true

theorem IsRegular.isStable {set : FieldSet Schema} (regular : set.IsRegular) : set.isStable = true := by
  refine Bool.and_eq_true_iff.mpr ⟨decide_eq_true regular.built.nodup_keys, List.all_eq_true.mpr ?_⟩
  intro field member
  have outside (filled : field.presence.isFilled = true) :
      (set.exclusive.all fun group => !group.contains field.key) = true := by
    refine List.all_eq_true.mpr fun group exclusive => ?_
    simpa using regular.apart field member filled group exclusive
  rw [fillsWell]
  cases presence : field.presence with
  | required => rfl
  | optional => rfl
  | default value => exact outside (by rw [presence]; rfl)
  | generatedId type =>
    refine Bool.and_eq_true_iff.mpr ⟨outside (by rw [presence]; rfl), ?_⟩
    rw [regular.built.declares member presence]
    exact Bool.and_eq_true_iff.mpr ⟨decide_eq_true rfl, regular.named field member type (by rw [presence]; rfl)⟩

end FieldSet

namespace Schema

/-- Everything that a schema is made of but alternatives and steps. The selector of a choice is any text. -/
inductive IsRegular : Schema → Prop where
  | any : IsRegular .any
  | scalar {schema : Schema} {read : Value → Scalar.Read} : schema.reading? = some read → IsRegular schema
  | templatable {inner : Schema} : IsRegular inner → IsRegular (.templatable inner)
  | oneOrMany {inner : Schema} : IsRegular inner → IsRegular (.oneOrMany inner)
  | listOf {inner : Schema} : IsRegular inner → IsRegular (.listOf inner)
  | fields {set : FieldSet Schema} :
    set.IsRegular → (∀ field ∈ set.fields, IsRegular field.expected) → IsRegular (.fields set)
  | withSimpleId {set : FieldSet Schema} : IsRegular (.fields set) → IsRegular (.withSimpleId set)
  | invalid (message : String) : IsRegular (.invalid message)
  | dispatch {key : String} {choices : List (String × FieldSet Schema)} :
    (∀ choice ∈ choices, IsRegular (.fields choice.2)) → (∀ choice ∈ choices, choice.2.isText key = true) →
    IsRegular (.dispatch key choices)
  | singleKey {kind : String} {entries : List (String × Schema)} :
    (∀ entry ∈ entries, IsRegular entry.2) → IsRegular (.singleKey kind entries)
  | automation {set : FieldSet Schema} : IsRegular (.fields set) → IsRegular (.automation set)
  | recursive (rule : Rule) : IsRegular (.recursive rule)

namespace IsRegular

theorem isStable_of_reading {schema : Schema} {read : Value → Scalar.Read}
    (reads : schema.reading? = some read) : schema.everywhere isStable = true := by
  cases schema <;> cases reads <;> rfl

theorem everywhere_isStable {schema : Schema} (regular : schema.IsRegular) :
    schema.everywhere isStable = true := by
  induction regular with
  | any => rfl
  | scalar reads => exact isStable_of_reading reads
  | templatable _ ih => exact everywhere_iff.mpr ⟨rfl, List.forall_mem_singleton.mpr ih⟩
  | oneOrMany _ ih => exact everywhere_iff.mpr ⟨rfl, List.forall_mem_singleton.mpr ih⟩
  | listOf _ ih => exact everywhere_iff.mpr ⟨rfl, List.forall_mem_singleton.mpr ih⟩
  | fields own _ ih =>
    refine everywhere_iff.mpr ⟨own.isStable, fun part member => ?_⟩
    obtain ⟨field, inside, rfl⟩ := List.mem_map.mp member
    exact ih field inside
  | withSimpleId _ ih =>
    refine everywhere_iff.mpr ⟨rfl, fun step member => ?_⟩
    rcases List.mem_cons.mp member with rfl | last
    · rfl
    · cases List.mem_singleton.mp last
      exact ih
  | invalid message => rfl
  | dispatch _ isText ih =>
    refine everywhere_iff.mpr ⟨List.all_eq_true.mpr fun choice member => ?_, fun part member => ?_⟩
    · obtain ⟨own, -⟩ := everywhere_iff.mp (ih choice member)
      exact Bool.and_eq_true_iff.mpr ⟨own, isText choice member⟩
    · obtain ⟨choice, inside, held⟩ := List.mem_flatMap.mp member
      exact (everywhere_iff.mp (ih choice inside)).2 part held
  | singleKey _ ih =>
    refine everywhere_iff.mpr ⟨rfl, fun part member => ?_⟩
    obtain ⟨entry, inside, rfl⟩ := List.mem_map.mp member
    exact ih entry inside
  | automation _ ih => exact everywhere_iff.mpr (everywhere_iff.mp ih)
  | recursive rule => rfl

/-- What a check makes of a value, the check accepts and leaves as it is. -/
theorem check_check {schema : Schema} (regular : schema.IsRegular) {node : Node} {value : Value}
    (accepted : schema.check node = .ok value) : schema.check ⟨node.path, value⟩ = .ok value :=
  (normal_of_check regular.everywhere_isStable accepted).check_eq node.path

end IsRegular

/-- A lamp of which either the state or the lambda that tells it is given. -/
def lampFields : FieldSet Schema :=
  (((((FieldSet.empty.required "kind" .string).withGeneratedId "id" (.named "light::Lamp")).withDefault
    "fades" (.string "yes") .boolean).optional "state" .boolean).optional "lambda" .lambda).exclusiveKeys
      ["state", "lambda"]

/-- What happens after some time. -/
def timerFields : FieldSet Schema :=
  (FieldSet.empty.required "kind" .string).optional "on_time"
    (.automation ((FieldSet.empty.optional "then" .actions).withDefault "after" (.string "0:01:00") .duration))

/-- A mapping whose key `kind` names one of the two. -/
def appliance : Schema := .dispatch "kind" [("lamp", lampFields), ("timer", timerFields)]

theorem isRegular_lampFields : IsRegular (.fields lampFields) := by
  refine .fields ⟨?_, by decide, by decide⟩ ?_
  · exact .exclusiveKeys _ (.optional _ _ (.optional _ _ (.withDefault _ _ _ (.withGeneratedId _ _
      (.required _ _ .empty)))))
  · intro field member
    fin_cases member <;> exact .scalar rfl

theorem isRegular_timerFields : IsRegular (.fields timerFields) := by
  have steps : IsRegular (.fields ((FieldSet.empty.optional "then" .actions).withDefault "after"
      (.string "0:01:00") .duration)) := by
    refine .fields ⟨.withDefault _ _ _ (.optional _ _ .empty), by decide, by decide⟩ fun field member => ?_
    fin_cases member
    · exact .oneOrMany (.recursive .action)
    · exact .scalar rfl
  refine .fields ⟨.optional _ _ (.required _ _ .empty), by decide, by decide⟩ fun field member => ?_
  fin_cases member
  · exact .scalar rfl
  · exact .automation steps

theorem isRegular_appliance : appliance.IsRegular := by
  refine .dispatch ?_ (by decide)
  intro choice member
  fin_cases member
  · exact isRegular_lampFields
  · exact isRegular_timerFields

/-- The actions become a list of one automation, which is then known by its key `then`. -/
theorem check_check_appliance :
    let document : Node := .atRoot (.map [("kind", .string "timer"),
      ("on_time", .map [("switch.toggle", .string "fan")])])
    let timer : Value := .map [("kind", .string "timer"),
      ("on_time", .list [.map [
        ("then", .list [.map [("switch.toggle", .map [("id", .id ⟨"fan", Switch.type, .used⟩)])]]),
        ("after", .duration (.ofSeconds 60))]])]
    appliance.check document = .ok timer ∧ appliance.check ⟨document.path, timer⟩ = .ok timer :=
  ⟨rfl, isRegular_appliance.check_check rfl⟩

end Schema

end DeviceConfig
