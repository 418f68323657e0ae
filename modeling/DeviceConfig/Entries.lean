/-!
Mappings with text keys that keep the order in which keys were first set. They are plain lists of
pairs, so that values may contain mappings of values. Setting a key changes the value of that key only
(`get?_set`), keeps the order of the others (`keys_set`) and never repeats a key (`Distinct.set`).
-/

namespace DeviceConfig

abbrev Entries (α : Type) := List (String × α)

namespace Entries

variable {α β : Type}

def keys (entries : Entries α) : List String := entries.map (·.1)

def get? (key : String) : Entries α → Option α
  | [] => none
  | (k, v) :: rest => if k == key then some v else get? key rest

def contains (key : String) (entries : Entries α) : Bool := (get? key entries).isSome

/-- Sets the value of a key: in its place if the key is there, else at the end. -/
def set (key : String) (value : α) : Entries α → Entries α
  | [] => [(key, value)]
  | (k, v) :: rest => if k == key then (k, value) :: rest else (k, v) :: set key value rest

/-- Sets the given pairs one after the other. -/
def setAll (entries pairs : Entries α) : Entries α :=
  pairs.foldl (fun entries (key, value) => set key value entries) entries

def ofList (pairs : List (String × α)) : Entries α := setAll [] pairs

/-- Puts a pair at its place in the order of the keys, replacing a pair of the same key. -/
def setSorted (key : String) (value : α) : Entries α → Entries α
  | [] => [(key, value)]
  | (k, v) :: rest =>
    if key < k then (key, value) :: (k, v) :: rest
    else if k == key then (key, value) :: rest
    else (k, v) :: setSorted key value rest

/-- The pairs in the order of their keys by code point. -/
def sorted (entries : Entries α) : Entries α :=
  entries.foldl (fun entries (key, value) => setSorted key value entries) []

/-- No key stands twice. -/
def Distinct (entries : Entries α) : Prop := (keys entries).Nodup

theorem contains_iff_mem_keys {key : String} {entries : Entries α} :
    contains key entries = true ↔ key ∈ keys entries := by
  induction entries with
  | nil => simp [contains, get?, keys]
  | cons entry rest ih =>
    obtain ⟨k, v⟩ := entry
    by_cases same : k = key
    · simp [contains, get?, keys, same]
    · simpa [contains, get?, keys, same, Ne.symm same] using ih

/-- Setting a key changes the value of that key only. -/
theorem get?_set (key other : String) (value : α) (entries : Entries α) :
    get? other (set key value entries) = if key = other then some value else get? other entries := by
  induction entries with
  | nil => simp [set, get?]
  | cons entry rest ih =>
    obtain ⟨k, v⟩ := entry
    by_cases same : k = key
    · subst same
      by_cases asked : k = other <;> simp [set, get?, asked]
    · by_cases first : k = other
      · subst first
        simp [set, get?, same, Ne.symm same]
      · simp [set, get?, same, first, ih]

/-- A key that is there keeps its place; any other comes last. -/
theorem keys_set (key : String) (value : α) (entries : Entries α) :
    keys (set key value entries) =
      if key ∈ keys entries then keys entries else keys entries ++ [key] := by
  induction entries with
  | nil => simp [set, keys]
  | cons entry rest ih =>
    obtain ⟨k, v⟩ := entry
    by_cases same : k = key
    · simp [set, keys, same]
    · have step : keys (set key value ((k, v) :: rest)) = k :: keys (set key value rest) := by
        simp [set, keys, same]
      rw [step, ih]
      by_cases mem : key ∈ keys rest <;> simp_all [keys, Ne.symm same]

theorem Distinct.set {entries : Entries α} (distinct : Distinct entries) (key : String) (value : α) :
    Distinct (set key value entries) := by
  unfold Distinct
  rw [keys_set]
  split
  · exact distinct
  · rename_i absent
    refine List.nodup_append.mpr ⟨distinct, by simp, ?_⟩
    intro a mem b last same
    simp only [List.mem_singleton] at last
    exact absent (last ▸ same ▸ mem)

theorem Distinct.setAll {entries : Entries α} (distinct : Distinct entries) (pairs : Entries α) :
    Distinct (setAll entries pairs) := by
  induction pairs generalizing entries with
  | nil => exact distinct
  | cons pair rest ih => exact ih (distinct.set pair.1 pair.2)

theorem distinct_ofList (pairs : List (String × α)) : Distinct (ofList pairs) :=
  have none : Distinct ([] : Entries α) := List.nodup_nil
  none.setAll pairs

end Entries

end DeviceConfig
