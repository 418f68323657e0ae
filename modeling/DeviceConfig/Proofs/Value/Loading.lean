import DeviceConfig.Proofs.Lists
import DeviceConfig.Proofs.Value.Reading

/-!
What becomes of a YAML node when it is read. Entries whose keys become the same text are set one over the other, so a
node is kept as a whole exactly if that happens nowhere (`Yaml.keptIn_iff_keyTextsDiffer`). A value that is written as
a node comes back, with texts for what only texts can show (`Value.ofYaml_toYaml`).
-/

namespace DeviceConfig

namespace Value

/-- An entry of a mapping as it is read by itself. -/
def ReadsAs (entry : Yaml × Yaml) (pair : String × Value) : Prop :=
  keyOfYaml entry.1 = .ok pair.1 ∧ ofYaml entry.2 = .ok pair.2

theorem ofYamlItems_eq_ok_iff {items : List Yaml} {values : List Value} :
    ofYamlItems items = .ok values ↔ List.Forall₂ (fun item value => ofYaml item = .ok value) items values := by
  induction items generalizing values with
  | nil =>
    rw [List.forall₂_nil_left_iff]
    exact ⟨fun read => (Except.ok.inj read).symm, fun none => none ▸ rfl⟩
  | cons item rest ih =>
    rw [List.forall₂_cons_left_iff, ofYamlItems, bind_eq_ok_iff]
    constructor
    · rintro ⟨value, first, more⟩
      obtain ⟨others, inRest, whole⟩ := bind_eq_ok_iff.mp more
      exact ⟨value, others, first, ih.mp inRest, (Except.ok.inj whole).symm⟩
    · rintro ⟨value, others, first, inRest, rfl⟩
      exact ⟨value, first, bind_eq_ok_iff.mpr ⟨others, ih.mpr inRest, rfl⟩⟩

theorem ofYamlEntries_eq_ok_iff {before fields : Entries Value} {entries : List (Yaml × Yaml)} :
    ofYamlEntries before entries = .ok fields ↔
      ∃ pairs, List.Forall₂ ReadsAs entries pairs ∧ fields = Entries.setAll before pairs := by
  induction entries generalizing before with
  | nil =>
    simp only [List.forall₂_nil_left_iff, exists_eq_left]
    exact ⟨fun read => (Except.ok.inj read).symm, fun same => same ▸ rfl⟩
  | cons entry rest ih =>
    obtain ⟨key, node⟩ := entry
    simp only [ofYamlEntries, bind_eq_ok_iff, ih, List.forall₂_cons_left_iff]
    constructor
    · rintro ⟨name, keyRead, value, valueRead, pairs, inRest, rfl⟩
      exact ⟨_, ⟨(name, value), pairs, ⟨keyRead, valueRead⟩, inRest, rfl⟩, rfl⟩
    · rintro ⟨_, ⟨⟨name, value⟩, pairs, ⟨keyRead, valueRead⟩, inRest, rfl⟩, rfl⟩
      exact ⟨name, keyRead, value, valueRead, pairs, inRest, rfl⟩

theorem ofYaml_sequence_eq_ok_iff {items : List Yaml} {value : Value} :
    ofYaml (.sequence items) = .ok value ↔
      ∃ values, List.Forall₂ (fun item value => ofYaml item = .ok value) items values ∧ value = .list values := by
  rw [ofYaml, map_eq_ok_iff]
  simp only [ofYamlItems_eq_ok_iff]
  exact exists_congr fun values => and_congr_right fun _ => eq_comm

/-- The entries of a mapping are read one by one, and then set in this order. -/
theorem ofYaml_mapping_eq_ok_iff {entries : List (Yaml × Yaml)} {value : Value} :
    ofYaml (.mapping entries) = .ok value ↔
      ∃ pairs, List.Forall₂ ReadsAs entries pairs ∧ value = .map (Entries.ofList pairs) := by
  rw [ofYaml, map_eq_ok_iff]
  simp only [ofYamlEntries_eq_ok_iff]
  constructor
  · rintro ⟨_, ⟨pairs, inside, rfl⟩, rfl⟩
    exact ⟨pairs, inside, rfl⟩
  · rintro ⟨pairs, inside, rfl⟩
    exact ⟨_, ⟨pairs, inside, rfl⟩, rfl⟩

end Value

namespace Yaml

def isCollection : Yaml → Bool
  | sequence _ => true
  | mapping _ => true
  | _ => false

/-- A property of all nodes that collections inherit from what they hold. -/
@[elab_as_elim]
theorem induct {motive : Yaml → Prop}
    (sequence : ∀ items, (∀ item ∈ items, motive item) → motive (.sequence items))
    (mapping : ∀ entries, (∀ entry ∈ entries, motive entry.2) → motive (.mapping entries))
    (scalar : ∀ node, node.isCollection = false → motive node) :
    (node : Yaml) → motive node
  | .sequence items => sequence items fun item _ => induct sequence mapping scalar item
  | .mapping entries => mapping entries fun entry _ => induct sequence mapping scalar entry.2
  | .null => scalar _ rfl
  | .bool _ => scalar _ rfl
  | .int _ => scalar _ rfl
  | .float _ => scalar _ rfl
  | .string _ => scalar _ rfl
  | .tagged _ _ => scalar _ rfl
termination_by node => sizeOf node
decreasing_by
  · have smaller := List.sizeOf_lt_of_mem (by assumption : item ∈ items)
    simp only [Yaml.sequence.sizeOf_spec]
    omega
  · have smaller := List.sizeOf_lt_of_mem (by assumption : entry ∈ entries)
    obtain ⟨key, node⟩ := entry
    simp only [Yaml.mapping.sizeOf_spec, Prod.mk.sizeOf_spec] at smaller ⊢
    omega

section Everywhere

variable {holds : List (Yaml × Yaml) → Prop}

mutual

/-- Whether all mappings in the node, at any depth, have entries of this kind. No mapping stands in a key or behind a
    tag of a document that can be read. -/
def Everywhere (holds : List (Yaml × Yaml) → Prop) : Yaml → Prop
  | sequence items => ItemsEverywhere holds items
  | mapping entries => holds entries ∧ EntriesEverywhere holds entries
  | _ => True

def ItemsEverywhere (holds : List (Yaml × Yaml) → Prop) : List Yaml → Prop
  | [] => True
  | item :: rest => item.Everywhere holds ∧ ItemsEverywhere holds rest

def EntriesEverywhere (holds : List (Yaml × Yaml) → Prop) : List (Yaml × Yaml) → Prop
  | [] => True
  | (_, node) :: rest => node.Everywhere holds ∧ EntriesEverywhere holds rest

end

theorem everywhere_sequence {items : List Yaml} :
    (sequence items).Everywhere holds ↔ ∀ item ∈ items, item.Everywhere holds := by
  rw [Everywhere]
  induction items with
  | nil => simp [ItemsEverywhere]
  | cons item rest ih => simp [ItemsEverywhere, ih]

theorem everywhere_mapping {entries : List (Yaml × Yaml)} :
    (mapping entries).Everywhere holds ↔ holds entries ∧ ∀ entry ∈ entries, entry.2.Everywhere holds := by
  have parts : EntriesEverywhere holds entries ↔ ∀ entry ∈ entries, entry.2.Everywhere holds := by
    induction entries with
    | nil => simp [EntriesEverywhere]
    | cons entry rest ih => simp [EntriesEverywhere, ih]
  rw [Everywhere, parts]

theorem everywhere_scalar {node : Yaml} (scalar : node.isCollection = false) : node.Everywhere holds := by
  cases node <;> first | exact trivial | cases scalar

end Everywhere

/-- No mapping has two equal keys. -/
def KeysDiffer : Yaml → Prop :=
  Everywhere fun entries => entries.Pairwise fun entry other => entry.1.equal other.1 = false

/-- No mapping has two keys that become the same text. -/
def KeyTextsDiffer : Yaml → Prop :=
  Everywhere fun entries => (entries.map fun entry => Value.keyOfYaml entry.1).Nodup

mutual

/-- The value has all that the node has: an item for each item of a sequence, and for each entry of a mapping an entry
    under the text of its key, in the same order. -/
def KeptIn : Yaml → Value → Prop
  | sequence items, .list values => ItemsKeptIn items values
  | mapping entries, .map fields => EntriesKeptIn entries fields
  | node, value => Value.ofYaml node = .ok value

def ItemsKeptIn : List Yaml → List Value → Prop
  | [], [] => True
  | item :: rest, value :: values => item.KeptIn value ∧ ItemsKeptIn rest values
  | _, _ => False

def EntriesKeptIn : List (Yaml × Yaml) → Entries Value → Prop
  | [], [] => True
  | (key, node) :: rest, (name, value) :: fields =>
    Value.keyOfYaml key = .ok name ∧ node.KeptIn value ∧ EntriesKeptIn rest fields
  | _, _ => False

end

theorem keptIn_sequence {items : List Yaml} {values : List Value} :
    (sequence items).KeptIn (.list values) ↔ List.Forall₂ KeptIn items values := by
  rw [KeptIn]
  induction items generalizing values with
  | nil => cases values <;> simp [ItemsKeptIn]
  | cons item rest ih => cases values <;> simp [ItemsKeptIn, ih]

def EntryKeptIn (entry : Yaml × Yaml) (pair : String × Value) : Prop :=
  Value.keyOfYaml entry.1 = .ok pair.1 ∧ entry.2.KeptIn pair.2

theorem keptIn_mapping {entries : List (Yaml × Yaml)} {fields : Entries Value} :
    (mapping entries).KeptIn (.map fields) ↔ List.Forall₂ EntryKeptIn entries fields := by
  rw [KeptIn]
  induction entries generalizing fields with
  | nil => cases fields <;> simp [EntriesKeptIn]
  | cons entry rest ih => cases fields <;> simp [EntriesKeptIn, EntryKeptIn, ih, and_assoc]

theorem keptIn_scalar {node : Yaml} {value : Value} (scalar : node.isCollection = false) :
    node.KeptIn value ↔ Value.ofYaml node = .ok value := by
  cases node <;> first | exact Iff.rfl | cases scalar

theorem map_keyOfYaml_eq {related : Yaml × Yaml → String × Value → Prop} {entries : List (Yaml × Yaml)}
    {fields : Entries Value} (pairs : List.Forall₂ related entries fields)
    (keyRead : ∀ entry pair, related entry pair → Value.keyOfYaml entry.1 = .ok pair.1) :
    (entries.map fun entry => Value.keyOfYaml entry.1) = (Entries.keys fields).map .ok := by
  induction pairs with
  | nil => rfl
  | cons first rest ih => rw [List.map_cons, ih, keyRead _ _ first]; rfl

theorem nodup_keyTexts_iff {related : Yaml × Yaml → String × Value → Prop} {entries : List (Yaml × Yaml)}
    {fields : Entries Value} (pairs : List.Forall₂ related entries fields)
    (keyRead : ∀ entry pair, related entry pair → Value.keyOfYaml entry.1 = .ok pair.1) :
    (entries.map fun entry => Value.keyOfYaml entry.1).Nodup ↔ Entries.Distinct fields := by
  rw [map_keyOfYaml_eq pairs keyRead]
  exact List.nodup_map_iff fun _ _ => Except.ok.inj

/-- Reading a node keeps all of it exactly if in no mapping two keys become the same text. -/
theorem keptIn_iff_keyTextsDiffer {node : Yaml} {value : Value} (read : Value.ofYaml node = .ok value) :
    node.KeptIn value ↔ node.KeyTextsDiffer := by
  induction node using induct generalizing value with
  | sequence items each =>
    obtain ⟨values, inside, rfl⟩ := Value.ofYaml_sequence_eq_ok_iff.mp read
    rw [keptIn_sequence, KeyTextsDiffer, everywhere_sequence]
    exact forall₂_iff_of_forall₂ inside fun item member _ own => each item member own
  | mapping entries each =>
    obtain ⟨pairs, inside, rfl⟩ := Value.ofYaml_mapping_eq_ok_iff.mp read
    rw [keptIn_mapping, KeyTextsDiffer, everywhere_mapping]
    by_cases differ : (entries.map fun entry => Value.keyOfYaml entry.1).Nodup
    · have distinct : Entries.Distinct pairs := (nodup_keyTexts_iff inside fun _ _ => And.left).mp differ
      rw [distinct.ofList_eq, and_iff_right differ]
      refine forall₂_iff_of_forall₂ inside fun entry member pair own => ?_
      rw [EntryKeptIn, and_iff_right own.1]
      exact each entry member own.2
    · -- the keys of what was set differ, so they cannot be those of all entries
      refine iff_of_false (fun kept => differ ?_) fun both => differ both.1
      exact (nodup_keyTexts_iff kept fun _ _ => And.left).mpr (Entries.distinct_ofList pairs)
  | scalar node scalar => exact iff_of_true ((keptIn_scalar scalar).mpr read) (everywhere_scalar scalar)

/-- Levels by the number or the name of a port. -/
def levels : Yaml := .mapping [
  (.int 1, .string "low"), (.string "led", .sequence [.mapping [(.bool true, .null), (.int 1, .int 2)]])]

def levelsRead : Value := .map [
  ("1", .string "low"), ("led", .list [.map [("true", .null), ("1", .int 2)]])]

theorem keptIn_iff_keyTextsDiffer_levels :
    Value.ofYaml levels = .ok levelsRead ∧ (levels.KeptIn levelsRead ↔ levels.KeyTextsDiffer) ∧
      levels.KeptIn levelsRead := by
  have read : Value.ofYaml levels = .ok levelsRead := rfl
  exact ⟨read, keptIn_iff_keyTextsDiffer read, rfl, rfl, rfl, ⟨⟨rfl, rfl, rfl, rfl, trivial⟩, trivial⟩, trivial⟩

/-- The number one and its text are different keys, but the entry of one is set over that of the other. -/
theorem not_keptIn_ones :
    let ones : Yaml := .mapping [(.int 1, .string "a"), (.string "1", .string "b")]
    ones.KeysDiffer ∧ Value.ofYaml ones = .ok (.map [("1", .string "b")]) ∧
      ¬ones.KeptIn (.map [("1", .string "b")]) := by
  refine ⟨⟨?_, trivial, trivial, trivial⟩, rfl, ?_⟩
  · simp [equal]
  · rintro ⟨-, -, lost⟩
    exact lost

end Yaml

namespace Value

mutual

/-- What a document says of the value: identifiers, durations and quantities are texts in it. -/
def shown : Value → Value
  | .id i => .string i.name
  | .duration d => .string (text (.duration d))
  | .quantity x unit => .string (text (.quantity x unit))
  | .list items => .list (shownItems items)
  | .map entries => .map (shownEntries entries)
  | value => value

def shownItems : List Value → List Value
  | [] => []
  | item :: rest => item.shown :: shownItems rest

def shownEntries : Entries Value → Entries Value
  | [] => []
  | (key, value) :: rest => (key, value.shown) :: shownEntries rest

end

theorem shownItems_eq (items : List Value) : shownItems items = items.map shown := by
  induction items with
  | nil => rfl
  | cons item rest ih => rw [shownItems, ih, List.map_cons]

theorem shownEntries_eq (entries : Entries Value) :
    shownEntries entries = entries.map fun entry => (entry.1, entry.2.shown) := by
  induction entries with
  | nil => rfl
  | cons entry rest ih => rw [shownEntries, ih, List.map_cons]

theorem toYamlItems_eq (items : List Value) : toYamlItems items = items.map toYaml := by
  induction items with
  | nil => rfl
  | cons item rest ih => rw [toYamlItems, ih, List.map_cons]

theorem toYamlEntries_eq (entries : Entries Value) :
    toYamlEntries entries = entries.map fun entry => (.string entry.1, entry.2.toYaml) := by
  induction entries with
  | nil => rfl
  | cons entry rest ih => rw [toYamlEntries, ih, List.map_cons]

/-- The values that a document says itself. -/
def isSaid : Value → Bool
  | .id _ | .duration _ | .quantity _ _ => false
  | _ => true

/-- A value without identifiers, durations and quantities at any depth is shown as it is. -/
theorem shown_eq_self {value : Value} (said : ∀ scalar ∈ value.scalars, scalar.isSaid = true) :
    value.shown = value := by
  induction value using induct with
  | list items each =>
    simp only [scalars_list, List.forall_mem_flatMap] at said
    rw [shown, shownItems_eq, List.map_congr_left fun item member => each item member (said item member), List.map_id']
  | map entries each =>
    simp only [scalars_map, List.forall_mem_flatMap] at said
    have same : ∀ entry ∈ entries, (entry.1, entry.2.shown) = entry := fun entry member =>
      Prod.ext rfl (each entry member (said entry member))
    rw [shown, shownEntries_eq, List.map_congr_left same, List.map_id']
  | scalar value scalar =>
    have own : value ∈ value.scalars := by cases value <;> first | exact List.mem_singleton_self _ | cases scalar
    have ownSaid := said value own
    cases value with
    | id i => cases ownSaid
    | duration d => cases ownSaid
    | quantity x unit => cases ownSaid
    | list items => cases scalar
    | map entries => cases scalar
    | _ => rfl

theorem word?_toInt (n : Int64) : Decimal.word? n.toInt = some n := by
  have fits : (Int64.minValue.toInt ≤ n.toInt && n.toInt ≤ Int64.maxValue.toInt) = true := by
    rw [Bool.and_eq_true, decide_eq_true_eq, decide_eq_true_eq]
    exact ⟨n.minValue_le_toInt, n.toInt_le⟩
  rw [Decimal.word?, if_pos fits, Int64.ofInt_toInt]

/-- Reading what was written gives the value with texts for identifiers, durations and quantities, and so the value
    itself where there are none. -/
theorem ofYaml_toYaml {value : Value} (differ : value.keysDiffer = true) :
    ofYaml value.toYaml = .ok value.shown ∧
      ((∀ scalar ∈ value.scalars, scalar.isSaid = true) → ofYaml value.toYaml = .ok value) := by
  suffices read : ofYaml value.toYaml = .ok value.shown from ⟨read, fun said => by rw [read, shown_eq_self said]⟩
  induction value using induct with
  | list items each =>
    rw [keysDiffer_list] at differ
    rw [toYaml, toYamlItems_eq, shown, shownItems_eq, ofYaml_sequence_eq_ok_iff]
    refine ⟨_, ?_, rfl⟩
    rw [List.forall₂_map_left_iff, List.forall₂_map_right_iff, List.forall₂_same]
    exact fun item member => each item member (differ item member)
  | map entries each =>
    obtain ⟨distinct, inside⟩ := keysDiffer_map.mp differ
    have kept : Entries.Distinct (entries.map fun entry => (entry.1, entry.2.shown)) := by
      rw [Entries.Distinct, Entries.keys_map]
      exact distinct
    rw [toYaml, toYamlEntries_eq, shown, shownEntries_eq, ofYaml_mapping_eq_ok_iff]
    refine ⟨_, ?_, by rw [kept.ofList_eq]⟩
    rw [List.forall₂_map_left_iff, List.forall₂_map_right_iff, List.forall₂_same]
    exact fun entry member => ⟨rfl, each entry member (inside entry member)⟩
  | scalar value scalar =>
    cases value with
    | int n => rw [toYaml, ofYaml, word?_toInt]; rfl
    | list items => cases scalar
    | map entries => cases scalar
    | _ => rfl

/-- What a document can say by itself, with texts that look like something else. -/
def fanActions : Value := .list [
  .null, .string "!lambda x", .lambda "return x;", .int (-3), .float 2, .float (0 / 0),
  .map [("true", .bool true), ("2", .string "2"), ("1", .list [])]]

def fanState : Value := .map [
  ("id", .id (.declared "fan" (.named "switch_::Switch"))), ("after", .duration (.ofSeconds 90)),
  ("voltage", .quantity 2.5 "V"), ("then", fanActions)]

theorem ofYaml_toYaml_fanState :
    fanState.keysDiffer = true ∧
    ofYaml fanState.toYaml = .ok (.map [
      ("id", .string "fan"), ("after", .string "90s"), ("voltage", .string (text (.quantity 2.5 "V"))),
      ("then", fanActions)]) ∧
    ofYaml fanActions.toYaml = .ok fanActions := by
  have differ : fanState.keysDiffer = true := by decide
  have said : ∀ scalar ∈ fanActions.scalars, scalar.isSaid = true := by decide
  exact ⟨differ, (ofYaml_toYaml differ).1, (ofYaml_toYaml (by decide)).2 said⟩

end Value

end DeviceConfig
