import DeviceConfig.Proofs.Lists
import DeviceConfig.Proofs.Schema.Built
import DeviceConfig.Switch.Schema
import Mathlib.Data.List.Induction

/-!
Calls that make a set of fields, one on top of the other. Of all calls that name a key the first gives it its
place and the last one its field, and to put sets together is associative (`FieldSet.constructions_override`).
-/

namespace DeviceConfig.FieldSet

section Put

variable {σ : Type} {field other : Field σ} {fields others more : List (Field σ)}

/-- Puts one field after the other. -/
def putFields (fields others : List (Field σ)) : List (Field σ) :=
  others.foldl (fun fields field => putField field fields) fields

theorem putFields_cons : putFields fields (other :: others) = putFields (putField other fields) others := rfl

theorem putFields_append : putFields fields (others ++ more) = putFields (putFields fields others) more :=
  List.foldl_append

theorem putFields_concat : putFields fields (others ++ [other]) = putField other (putFields fields others) :=
  putFields_append

theorem putField_putField (same : other.key = field.key) :
    putField field (putField other fields) = putField field fields := by
  induction fields with
  | nil => exact if_pos same
  | cons first rest ih =>
    by_cases found : first.key = field.key
    · have foundToo : first.key = other.key := found.trans same.symm
      rw [putField, if_pos foundToo, putField, if_pos same, putField, if_pos found]
    · have missed : first.key ≠ other.key := fun alike => found (alike.trans same)
      rw [putField, if_neg missed, putField, if_neg found, ih, putField, if_neg found]

/-- A field whose key has a place already may be put there later. -/
theorem putField_comm (apart : field.key ≠ other.key) (known : field.key ∈ fields.map (·.key)) :
    putField field (putField other fields) = putField other (putField field fields) := by
  induction fields with
  | nil => cases known
  | cons first rest ih =>
    by_cases found : first.key = field.key
    · have missed : first.key ≠ other.key := fun alike => apart (found.symm.trans alike)
      rw [putField, if_neg missed, putField, if_pos found, putField, if_pos found, putField, if_neg apart]
    · have inRest : field.key ∈ rest.map (·.key) :=
        (List.mem_cons.mp known).resolve_left fun alike => found alike.symm
      by_cases foundOther : first.key = other.key
      · rw [putField, if_pos foundOther, putField, if_neg apart.symm, putField, if_neg found, putField,
          if_pos foundOther]
      · rw [putField, if_neg foundOther, putField, if_neg found, ih inRest, putField, if_neg found, putField,
          if_neg foundOther]

theorem putFields_comm (absent : field.key ∉ others.map (·.key)) (known : field.key ∈ fields.map (·.key)) :
    putFields (putField field fields) others = putField field (putFields fields others) := by
  induction others generalizing fields with
  | nil => rfl
  | cons first rest ih =>
    obtain ⟨apart, absent⟩ := not_or.mp (mt List.mem_cons.mpr absent)
    have stays : field.key ∈ (putField first fields).map (·.key) := by
      rw [keys_putField]
      split
      · exact known
      · exact List.mem_append_left _ known
    rw [putFields_cons, putFields_cons, ← putField_comm apart known, ih absent stays]

/-- Putting a list into which a field was put is putting the list and then the field. -/
theorem putFields_putField (differ : (others.map (·.key)).Nodup) :
    putFields fields (putField field others) = putField field (putFields fields others) := by
  induction others generalizing fields with
  | nil => rfl
  | cons first rest ih =>
    obtain ⟨absent, restDiffer⟩ := List.nodup_cons.mp differ
    by_cases same : first.key = field.key
    · have known : field.key ∈ (putField first fields).map (·.key) := by
        rw [keys_putField, same]
        split
        · assumption
        · exact List.mem_append_right _ (List.mem_singleton_self _)
      rw [putField, if_pos same, putFields_cons, putFields_cons, ← putFields_comm (same ▸ absent) known,
        putField_putField same]
    · rw [putField, if_neg same, putFields_cons, putFields_cons, ih restDiffer]

theorem putFields_putFields (differ : (others.map (·.key)).Nodup) :
    putFields fields (putFields others more) = putFields (putFields fields others) more := by
  induction more generalizing others with
  | nil => rfl
  | cons first rest ih =>
    rw [putFields_cons, ih (nodup_putField differ), putFields_putField differ, putFields_cons]

theorem keys_putFields (fields : List (Field σ)) :
    (putFields [] fields).map (·.key) = (fields.map (·.key)).eraseDups := by
  induction fields using List.reverseRecOn with
  | nil => rfl
  | append_singleton before last ih =>
    rw [putFields_concat, keys_putField, ih, List.map_append, List.map_singleton, eraseDups_concat]
    simp only [List.mem_eraseDups]

end Put

/-- The calls that make a set of fields, each of them made on what the calls before it gave. -/
inductive Construction where
  | empty
  | required (before : Construction) (key : String) (expected : Schema)
  | optional (before : Construction) (key : String) (expected : Schema)
  | withDefault (before : Construction) (key : String) (value : Value) (expected : Schema)
  | withGeneratedId (before : Construction) (key : String) (type : CppType)
  | exclusiveKeys (before : Construction) (group : List String)
  | withExtra (before : Construction)
  | extend (before other : Construction)

namespace Construction

/-- The set that the calls make. -/
def set : Construction → FieldSet Schema
  | empty => .empty
  | required before key expected => before.set.required key expected
  | optional before key expected => before.set.optional key expected
  | withDefault before key value expected => before.set.withDefault key value expected
  | withGeneratedId before key type => before.set.withGeneratedId key type
  | exclusiveKeys before group => before.set.exclusiveKeys group
  | withExtra before => before.set.withExtra
  | extend before other => before.set.extend other.set

/-- What the calls say of keys, in the order of the calls. Those of the other set are made where it is
    added. -/
def calls : Construction → List (Field Schema)
  | empty => []
  | required before key expected => before.calls ++ [⟨key, .required, expected⟩]
  | optional before key expected => before.calls ++ [⟨key, .optional, expected⟩]
  | withDefault before key value expected => before.calls ++ [⟨key, .default value, expected⟩]
  | withGeneratedId before key type => before.calls ++ [⟨key, .generatedId type, .declareId type⟩]
  | exclusiveKeys before _ => before.calls
  | withExtra before => before.calls
  | extend before other => before.calls ++ other.calls

theorem isBuilt_set (construction : Construction) : construction.set.IsBuilt := by
  induction construction with
  | empty => exact .empty
  | required before key expected ih => exact .required key expected ih
  | optional before key expected ih => exact .optional key expected ih
  | withDefault before key value expected ih => exact .withDefault key value expected ih
  | withGeneratedId before key type ih => exact .withGeneratedId key type ih
  | exclusiveKeys before group ih => exact .exclusiveKeys group ih
  | withExtra before ih => exact .withExtra ih
  | extend before other ih ihOther => exact .extend ih ihOther

/-- To add a set is to make its calls. -/
theorem fields_set (construction : Construction) : construction.set.fields = putFields [] construction.calls := by
  induction construction with
  | empty => rfl
  | required before key expected ih => exact (congrArg (putField _) ih).trans putFields_concat.symm
  | optional before key expected ih => exact (congrArg (putField _) ih).trans putFields_concat.symm
  | withDefault before key value expected ih => exact (congrArg (putField _) ih).trans putFields_concat.symm
  | withGeneratedId before key type ih => exact (congrArg (putField _) ih).trans putFields_concat.symm
  | exclusiveKeys before group ih => exact ih
  | withExtra before ih => exact ih
  | extend before other ih ihOther =>
    calc (before.set.extend other.set).fields
      _ = putFields before.set.fields other.set.fields := rfl
      _ = putFields (putFields [] before.calls) (putFields [] other.calls) := by rw [ih, ihOther]
      _ = putFields (putFields [] before.calls) other.calls := putFields_putFields List.nodup_nil
      _ = putFields [] (before.calls ++ other.calls) := putFields_append.symm

end Construction

section Extend

variable {set other more : FieldSet Schema}

theorem extend_assoc (built : other.IsBuilt) :
    (set.extend other).extend more = set.extend (other.extend more) := by
  have fields : putFields set.fields (putFields other.fields more.fields) =
      putFields (putFields set.fields other.fields) more.fields := putFields_putFields built.nodup_keys
  rw [extend, extend, extend, extend, List.append_assoc, Bool.or_assoc]
  exact congrArg (fun fields => FieldSet.mk fields _ _) fields.symm

theorem empty_extend (construction : Construction) : FieldSet.empty.extend construction.set = construction.set := by
  have fields : putFields [] construction.set.fields = construction.set.fields := by
    rw [construction.fields_set]
    exact putFields_putFields List.nodup_nil
  exact congrArg (fun fields => FieldSet.mk fields _ _) fields

theorem extend_empty (set : FieldSet Schema) : set.extend .empty = set := by
  rw [extend, empty, List.append_nil, Bool.or_false]
  rfl

end Extend

/-- A set has one field for each key that a call names: its place is that of the first call with the key, and
    the last one says what it is. To extend sets is associative, and the empty set changes nothing on either
    side. -/
theorem constructions_override :
    (∀ a : Construction, a.set.keys.Nodup ∧ a.set.keys = (a.calls.map (·.key)).eraseDups ∧
      ∀ key, find? key a.set.fields = a.calls.reverse.find? (·.key == key)) ∧
    (∀ a b c : Construction, (a.set.extend b.set).extend c.set = a.set.extend (b.set.extend c.set)) ∧
    ∀ a : Construction, FieldSet.empty.extend a.set = a.set ∧ a.set.extend .empty = a.set := by
  refine ⟨fun a => ⟨a.isBuilt_set.nodup_keys, ?_, fun key => ?_⟩, fun a b c => extend_assoc b.isBuilt_set,
    fun a => ⟨empty_extend a, extend_empty a.set⟩⟩
  · rw [keys, a.fields_set, keys_putFields]
  · rw [a.fields_set, putFields, find?_putFields]
    exact Option.or_none

/-- The identifier of a template switch is of a type of its own and stands where that of any switch does. -/
example :
    find? "id" Switch.templateFields.fields =
      some ⟨"id", .generatedId Switch.templateType, .declareId Switch.templateType⟩ ∧
    Switch.templateFields.keys = Switch.fields.keys ++
      ["lambda", "optimistic", "turn_on_action", "turn_off_action"] :=
  ⟨rfl, rfl⟩

end DeviceConfig.FieldSet
