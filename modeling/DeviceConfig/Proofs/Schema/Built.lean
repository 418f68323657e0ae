import DeviceConfig.Proofs.Schema.FieldSet

/-!
The sets of fields that come out of the operations on sets: no key has two fields, and what expects an
identifier to be made up also declares it (`FieldSet.IsBuilt`).
-/

namespace DeviceConfig.FieldSet

section Put

variable {σ : Type} {field other : Field σ} {fields others : List (Field σ)}

theorem mem_of_mem_putField (member : other ∈ putField field fields) : other = field ∨ other ∈ fields := by
  induction fields with
  | nil => exact .inl (List.mem_singleton.mp member)
  | cons first rest ih =>
    rw [putField] at member
    split at member
    · exact (List.mem_cons.mp member).imp_right (List.mem_cons_of_mem _)
    · rcases List.mem_cons.mp member with rfl | inside
      · exact .inr (List.mem_cons_self ..)
      · exact (ih inside).imp_right (List.mem_cons_of_mem _)

theorem mem_of_mem_putFields
    (member : other ∈ others.foldl (fun fields field => putField field fields) fields) :
    other ∈ fields ∨ other ∈ others := by
  induction others generalizing fields with
  | nil => exact .inl member
  | cons first rest ih =>
    rcases ih member with before | later
    · rcases mem_of_mem_putField before with rfl | held
      · exact .inr (List.mem_cons_self ..)
      · exact .inl held
    · exact .inr (List.mem_cons_of_mem _ later)

/-- A known key stays where it is, a new one comes last. -/
theorem keys_putField (field : Field σ) (fields : List (Field σ)) :
    (putField field fields).map (·.key) =
      if field.key ∈ fields.map (·.key) then fields.map (·.key) else fields.map (·.key) ++ [field.key] := by
  induction fields with
  | nil => rfl
  | cons first rest ih =>
    by_cases same : first.key = field.key
    · simp [putField, same]
    · have apart : field.key ≠ first.key := fun equal => same equal.symm
      rw [putField, if_neg same, List.map_cons, ih, List.map_cons]
      by_cases known : field.key ∈ rest.map (·.key)
      · rw [if_pos known, if_pos (List.mem_cons_of_mem _ known)]
      · rw [if_neg known, if_neg fun member => (List.mem_cons.mp member).elim apart known, List.cons_append]

theorem nodup_putField (differ : (fields.map (·.key)).Nodup) :
    ((putField field fields).map (·.key)).Nodup := by
  rw [keys_putField]
  split
  · exact differ
  · rename_i unknown
    exact List.nodup_append.mpr ⟨differ, List.nodup_singleton _, fun key held new single same =>
      unknown (List.mem_singleton.mp single ▸ same ▸ held)⟩

theorem nodup_putFields (differ : (fields.map (·.key)).Nodup) :
    ((others.foldl (fun fields field => putField field fields) fields).map (·.key)).Nodup := by
  induction others generalizing fields with
  | nil => exact differ
  | cons first rest ih => exact ih (nodup_putField differ)

/-- The field that was put last is found. -/
theorem find?_putField (key : String) (field : Field σ) (fields : List (Field σ)) :
    find? key (putField field fields) = if field.key = key then some field else find? key fields := by
  induction fields with
  | nil => rfl
  | cons first rest ih =>
    rw [putField]
    by_cases same : first.key = field.key
    · rw [if_pos same, find?, find?, same]
      by_cases asked : field.key = key
      · rw [if_pos asked, if_pos asked]
      · rw [if_neg asked, if_neg asked, if_neg asked]
    · rw [if_neg same, find?, find?, ih]
      by_cases asked : first.key = key
      · rw [if_pos asked, if_pos asked, if_neg fun equal => same (asked.trans equal.symm)]
      · rw [if_neg asked, if_neg asked]

theorem find?_putFields (key : String) (fields others : List (Field σ)) :
    find? key (others.foldl (fun fields field => putField field fields) fields) =
      (others.reverse.find? (·.key == key)).or (find? key fields) := by
  induction others generalizing fields with
  | nil => rfl
  | cons first rest ih =>
    rw [List.foldl_cons, ih, find?_putField, List.reverse_cons, List.find?_append, Option.or_assoc]
    congr 1
    by_cases asked : first.key = key <;> simp [asked]

end Put

/-- The set is made by the operations on sets of fields. -/
inductive IsBuilt : FieldSet Schema → Prop where
  | empty : IsBuilt .empty
  | required {set : FieldSet Schema} (key : String) (expected : Schema) :
    IsBuilt set → IsBuilt (set.required key expected)
  | optional {set : FieldSet Schema} (key : String) (expected : Schema) :
    IsBuilt set → IsBuilt (set.optional key expected)
  | withDefault {set : FieldSet Schema} (key : String) (value : Value) (expected : Schema) :
    IsBuilt set → IsBuilt (set.withDefault key value expected)
  | withGeneratedId {set : FieldSet Schema} (key : String) (type : CppType) :
    IsBuilt set → IsBuilt (set.withGeneratedId key type)
  | exclusiveKeys {set : FieldSet Schema} (group : List String) :
    IsBuilt set → IsBuilt (set.exclusiveKeys group)
  | withExtra {set : FieldSet Schema} : IsBuilt set → IsBuilt set.withExtra
  | extend {set other : FieldSet Schema} : IsBuilt set → IsBuilt other → IsBuilt (set.extend other)

namespace IsBuilt

variable {set : FieldSet Schema}

theorem nodup_keys (built : set.IsBuilt) : (set.fields.map (·.key)).Nodup := by
  induction built with
  | empty => exact List.nodup_nil
  | required key expected _ ih => exact nodup_putField ih
  | optional key expected _ ih => exact nodup_putField ih
  | withDefault key value expected _ ih => exact nodup_putField ih
  | withGeneratedId key type _ ih => exact nodup_putField ih
  | exclusiveKeys group _ ih => exact ih
  | withExtra _ ih => exact ih
  | extend _ _ ih _ => exact nodup_putFields ih

theorem declares (built : set.IsBuilt) {field : Field Schema} (member : field ∈ set.fields) {type : CppType}
    (presence : field.presence = .generatedId type) : field.expected = .declareId type := by
  induction built with
  | empty => cases member
  | required key expected _ ih =>
    rcases mem_of_mem_putField member with rfl | before
    · cases presence
    · exact ih before
  | optional key expected _ ih =>
    rcases mem_of_mem_putField member with rfl | before
    · cases presence
    · exact ih before
  | withDefault key value expected _ ih =>
    rcases mem_of_mem_putField member with rfl | before
    · cases presence
    · exact ih before
  | withGeneratedId key made _ ih =>
    rcases mem_of_mem_putField member with rfl | before
    · cases presence
      rfl
    · exact ih before
  | exclusiveKeys group _ ih => exact ih member
  | withExtra _ ih => exact ih member
  | extend _ _ ih ihOther => exact (mem_of_mem_putFields member).elim ih ihOther

end IsBuilt

end DeviceConfig.FieldSet
