import DeviceConfig.Node

/-!
Looking up a key of a mapping, and the pairs that the mapping holds; the same for mappings at their places.
-/

namespace DeviceConfig

namespace Entries

variable {α β : Type} {key : String} {value : α} {entries : Entries α}

theorem mem_of_get? (found : get? key entries = some value) : (key, value) ∈ entries := by
  induction entries with
  | nil => cases found
  | cons entry rest ih =>
    obtain ⟨k, v⟩ := entry
    rw [get?] at found
    split at found
    · rename_i same
      cases found
      cases eq_of_beq same
      exact List.mem_cons_self ..
    · exact List.mem_cons_of_mem _ (ih found)

theorem mem_keys_of_mem {entry : String × α} (member : entry ∈ entries) : entry.1 ∈ keys entries :=
  List.mem_map_of_mem member

theorem get?_of_mem (distinct : Distinct entries) (member : (key, value) ∈ entries) :
    get? key entries = some value := by
  induction entries with
  | nil => cases member
  | cons entry rest ih =>
    obtain ⟨k, v⟩ := entry
    obtain ⟨absent, others⟩ := List.nodup_cons.mp distinct
    rw [get?]
    rcases List.mem_cons.mp member with same | inRest
    · cases same
      simp
    · have other : k ≠ key := by
        rintro rfl
        have held : (k, value).1 ∈ keys rest := mem_keys_of_mem inRest
        exact absent held
      rw [if_neg (by simpa using other)]
      exact ih others inRest

theorem get?_eq_none_iff : get? key entries = none ↔ key ∉ keys entries := by
  rw [← contains_iff_mem_keys, contains, Bool.not_eq_true, Option.isSome_eq_false_iff,
    Option.isNone_iff_eq_none]

theorem exists_get?_of_mem_keys (member : key ∈ keys entries) : ∃ value, get? key entries = some value := by
  rw [← contains_iff_mem_keys] at member
  exact Option.isSome_iff_exists.mp member

theorem get?_map (change : α → β) :
    get? key (entries.map fun entry => (entry.1, change entry.2)) = (get? key entries).map change := by
  induction entries with
  | nil => rfl
  | cons entry rest ih =>
    rw [List.map_cons, get?, get?, ih]
    split <;> rfl

theorem keys_map (change : α → β) :
    keys (entries.map fun entry => (entry.1, change entry.2)) = keys entries := by
  rw [keys, List.map_map]
  rfl

theorem set_of_absent (absent : key ∉ keys entries) : set key value entries = entries ++ [(key, value)] := by
  induction entries with
  | nil => rfl
  | cons entry rest ih =>
    obtain ⟨other, inRest⟩ := not_or.mp (mt List.mem_cons.mpr absent)
    rw [set, if_neg (by simpa using Ne.symm other), ih inRest, List.cons_append]

theorem setAll_eq_append {pairs : Entries α} (distinct : Distinct (entries ++ pairs)) :
    setAll entries pairs = entries ++ pairs := by
  induction pairs generalizing entries with
  | nil => rw [List.append_nil]; rfl
  | cons pair rest ih =>
    obtain ⟨key, value⟩ := pair
    have absent : key ∉ keys entries := by
      intro member
      rw [Distinct, keys, List.map_append] at distinct
      exact (List.nodup_append.mp distinct).2.2 key member key List.mem_cons_self rfl
    rw [List.append_cons] at distinct
    rw [List.append_cons, ← ih distinct, ← set_of_absent absent]
    rfl

/-- Pairs of different keys stay as they are when they are set one after the other. -/
theorem Distinct.ofList_eq (distinct : Distinct entries) : ofList entries = entries :=
  setAll_eq_append distinct

theorem get?_setSorted (other : String) :
    get? other (setSorted key value entries) = if key = other then some value else get? other entries := by
  induction entries with
  | nil => simp [setSorted, get?]
  | cons entry rest ih =>
    obtain ⟨k, v⟩ := entry
    rw [setSorted]
    split
    · simp [get?]
    · split
      · rename_i same
        have equal := eq_of_beq same
        subst equal
        by_cases asked : k = other <;> simp [get?, asked]
      · rename_i differs
        rw [get?, get?, ih]
        by_cases asked : k = other
        · subst asked
          have apart : key ≠ k := fun same => differs (beq_iff_eq.mpr same.symm)
          simp [apart]
        · simp [asked]

end Entries

namespace Node

variable {path : Path} {entries : Entries Value} {key : String}

theorem get?_of_present {value : Value} (present : Entries.get? key entries = some value) :
    (⟨path, .map entries⟩ : Node).get? key = some ⟨path.key key, value⟩ := by
  simp only [get?, present, Option.map_some]

theorem get?_of_absent (absent : Entries.get? key entries = none) :
    (⟨path, .map entries⟩ : Node).get? key = none := by
  simp only [get?, absent, Option.map_none]

theorem id?_of_present {id : ObjectId} (present : Entries.get? key entries = some (.id id)) :
    (⟨path, .map entries⟩ : Node).id? key = some id := by
  rw [id?, get?_of_present present]
  rfl

theorem string?_of_present {s : String} (present : Entries.get? key entries = some (.string s)) :
    (⟨path, .map entries⟩ : Node).string? key = some s := by
  rw [string?, get?_of_present present]
  rfl

end Node

end DeviceConfig
