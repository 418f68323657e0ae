import DeviceConfig.Schema.Identifiers

/-!
What stands inside a value at any depth. `Value.collect` gathers it in the order of the text, and
`Value.ids` differs from `Value.identifiers` by the order only (`ids_perm_identifiers`).
-/

namespace DeviceConfig

namespace Value

def isCollection : Value → Bool
  | list _ => true
  | map _ => true
  | _ => false

/-- A property of all values that collections inherit from what they hold. -/
@[elab_as_elim]
theorem induct {motive : Value → Prop}
    (list : ∀ items, (∀ item ∈ items, motive item) → motive (.list items))
    (map : ∀ entries, (∀ entry ∈ entries, motive entry.2) → motive (.map entries))
    (scalar : ∀ value, value.isCollection = false → motive value) :
    (value : Value) → motive value
  | .list items => list items fun item _ => induct list map scalar item
  | .map entries => map entries fun entry _ => induct list map scalar entry.2
  | .null => scalar _ rfl
  | .bool _ => scalar _ rfl
  | .int _ => scalar _ rfl
  | .float _ => scalar _ rfl
  | .string _ => scalar _ rfl
  | .lambda _ => scalar _ rfl
  | .id _ => scalar _ rfl
  | .duration _ => scalar _ rfl
  | .quantity _ _ => scalar _ rfl
termination_by value => sizeOf value
decreasing_by
  · have smaller := List.sizeOf_lt_of_mem (by assumption : item ∈ items)
    simp only [Value.list.sizeOf_spec]
    omega
  · have smaller := List.sizeOf_lt_of_mem (by assumption : entry ∈ entries)
    obtain ⟨key, value⟩ := entry
    simp only [Value.map.sizeOf_spec, Prod.mk.sizeOf_spec] at smaller ⊢
    omega

section Collect

variable {α : Type}

mutual

/-- What the scalars of a value give, in the order of the text. -/
def collect (leaf : Value → List α) : Value → List α
  | .list items => collectItems leaf items
  | .map entries => collectEntries leaf entries
  | value => leaf value

def collectItems (leaf : Value → List α) : List Value → List α
  | [] => []
  | item :: rest => item.collect leaf ++ collectItems leaf rest

def collectEntries (leaf : Value → List α) : List (String × Value) → List α
  | [] => []
  | (_, value) :: rest => value.collect leaf ++ collectEntries leaf rest

end

theorem collectItems_eq (leaf : Value → List α) (items : List Value) :
    collectItems leaf items = items.flatMap (collect leaf) := by
  induction items with
  | nil => rfl
  | cons item rest ih => rw [collectItems, ih, List.flatMap_cons]

theorem collectEntries_eq (leaf : Value → List α) (entries : Entries Value) :
    collectEntries leaf entries = entries.flatMap fun entry => entry.2.collect leaf := by
  induction entries with
  | nil => rfl
  | cons entry rest ih => rw [collectEntries, ih, List.flatMap_cons]

@[simp]
theorem collect_list (leaf : Value → List α) (items : List Value) :
    (list items).collect leaf = items.flatMap (collect leaf) := by
  rw [collect, collectItems_eq]

@[simp]
theorem collect_map (leaf : Value → List α) (entries : Entries Value) :
    (map entries).collect leaf = entries.flatMap fun entry => entry.2.collect leaf := by
  rw [collect, collectEntries_eq]

/-- The scalars of a value. -/
def scalars : Value → List Value := collect fun value => [value]

@[simp]
theorem scalars_list (items : List Value) : (list items).scalars = items.flatMap scalars := collect_list _ items

@[simp]
theorem scalars_map (entries : Entries Value) :
    (map entries).scalars = entries.flatMap fun entry => entry.2.scalars := collect_map _ entries

theorem mem_collect {leaf : Value → List α} {value : Value} {a : α} :
    a ∈ value.collect leaf ↔ ∃ scalar ∈ value.scalars, a ∈ leaf scalar := by
  induction value using induct with
  | list items each =>
    simp only [collect_list, scalars_list, List.mem_flatMap]
    constructor
    · rintro ⟨item, member, inside⟩
      obtain ⟨scalar, held, own⟩ := (each item member).mp inside
      exact ⟨scalar, ⟨item, member, held⟩, own⟩
    · rintro ⟨scalar, ⟨item, member, held⟩, own⟩
      exact ⟨item, member, (each item member).mpr ⟨scalar, held, own⟩⟩
  | map entries each =>
    simp only [collect_map, scalars_map, List.mem_flatMap]
    constructor
    · rintro ⟨entry, member, inside⟩
      obtain ⟨scalar, held, own⟩ := (each entry member).mp inside
      exact ⟨scalar, ⟨entry, member, held⟩, own⟩
    · rintro ⟨scalar, ⟨entry, member, held⟩, own⟩
      exact ⟨entry, member, (each entry member).mpr ⟨scalar, held, own⟩⟩
  | scalar value scalar =>
    have own : value.scalars = [value] := by cases value <;> first | rfl | cases scalar
    have whole : value.collect leaf = leaf value := by cases value <;> first | rfl | cases scalar
    rw [own, whole]
    simp

end Collect

/-- The identifiers of a value. -/
def ids : Value → List ObjectId := collect fun value => value.id?.toList

/-- The code that is embedded in a value. -/
def lambdas : Value → List String := collect fun value => value.lambda?.toList

/-- The names that users gave to the objects of a value. -/
def declaredNames (value : Value) : List String :=
  (value.ids.filter (·.role = .declared)).map (·.name)

@[simp]
theorem ids_list (items : List Value) : (list items).ids = items.flatMap ids := collect_list _ items

@[simp]
theorem ids_map (entries : Entries Value) :
    (map entries).ids = entries.flatMap fun entry => entry.2.ids := collect_map _ entries

@[simp]
theorem lambdas_list (items : List Value) : (list items).lambdas = items.flatMap lambdas :=
  collect_list _ items

@[simp]
theorem lambdas_map (entries : Entries Value) :
    (map entries).lambdas = entries.flatMap fun entry => entry.2.lambdas := collect_map _ entries

@[simp]
theorem declaredNames_list (items : List Value) :
    (list items).declaredNames = items.flatMap declaredNames := by
  rw [declaredNames, ids_list, List.filter_flatMap, List.map_flatMap]
  rfl

@[simp]
theorem declaredNames_map (entries : Entries Value) :
    (map entries).declaredNames = entries.flatMap fun entry => entry.2.declaredNames := by
  rw [declaredNames, ids_map, List.filter_flatMap, List.map_flatMap]
  rfl

theorem mem_scalars_of_mem_ids {value : Value} {id : ObjectId} (member : id ∈ value.ids) :
    .id id ∈ value.scalars := by
  obtain ⟨scalar, held, own⟩ := mem_collect.mp member
  cases scalar with
  | id other =>
    obtain rfl := List.mem_singleton.mp own
    exact held
  | _ => cases own

theorem mem_scalars_of_mem_lambdas {value : Value} {code : String} (member : code ∈ value.lambdas) :
    .lambda code ∈ value.scalars := by
  obtain ⟨scalar, held, own⟩ := mem_collect.mp member
  cases scalar with
  | lambda other =>
    obtain rfl := List.mem_singleton.mp own
    exact held
  | _ => cases own

theorem mem_ids_of_mem_declaredNames {value : Value} {name : String}
    (member : name ∈ value.declaredNames) : ∃ id ∈ value.ids, id.role = .declared ∧ id.name = name := by
  obtain ⟨id, kept, rfl⟩ := List.mem_map.mp member
  obtain ⟨inside, declared⟩ := List.mem_filter.mp kept
  exact ⟨id, inside, of_decide_eq_true declared, rfl⟩

mutual

/-- Whether in no mapping of the value, at any depth, a key stands twice. -/
def keysDiffer : Value → Bool
  | .list items => itemKeysDiffer items
  | .map entries => decide (Entries.keys entries).Nodup && entryKeysDiffer entries
  | _ => true

def itemKeysDiffer : List Value → Bool
  | [] => true
  | item :: rest => item.keysDiffer && itemKeysDiffer rest

def entryKeysDiffer : List (String × Value) → Bool
  | [] => true
  | (_, value) :: rest => value.keysDiffer && entryKeysDiffer rest

end

theorem keysDiffer_list {items : List Value} :
    (list items).keysDiffer = true ↔ ∀ item ∈ items, item.keysDiffer = true := by
  rw [keysDiffer]
  induction items with
  | nil => simp [itemKeysDiffer]
  | cons item rest ih => simp [itemKeysDiffer, ih]

theorem keysDiffer_map {entries : Entries Value} :
    (map entries).keysDiffer = true ↔
      Entries.Distinct entries ∧ ∀ entry ∈ entries, entry.2.keysDiffer = true := by
  have parts : entryKeysDiffer entries = true ↔ ∀ entry ∈ entries, entry.2.keysDiffer = true := by
    induction entries with
    | nil => simp [entryKeysDiffer]
    | cons entry rest ih => simp [entryKeysDiffer, ih]
  rw [keysDiffer, Bool.and_eq_true, decide_eq_true_eq, parts, Entries.Distinct]

theorem keysDiffer_scalar {value : Value} (scalar : value.isCollection = false) :
    value.keysDiffer = true := by
  cases value <;> first | rfl | cases scalar

end Value

section Identifiers

/-- The identifiers as the document orders them are those in the order of the text, up to the order. -/
theorem itemIdentifiers_perm {items : List Value}
    (each : ∀ item ∈ items, ∀ path : Path, ((item.identifiers path).map (·.id)).Perm item.ids)
    (path : Path) (position : Nat) :
    ((itemIdentifiers path position items).map (·.id)).Perm (items.flatMap Value.ids) := by
  induction items generalizing position with
  | nil => exact .refl _
  | cons item rest ih =>
    rw [itemIdentifiers, List.map_append, List.flatMap_cons]
    have first := each item (List.mem_cons_self ..) (path.index position)
    have others := ih (fun other member => each other (List.mem_cons_of_mem _ member)) (position + 1)
    exact first.append others

theorem entryIdentifiers_perm {entries : Entries Value}
    (each : ∀ entry ∈ entries, ∀ path : Path,
      ((entry.2.identifiers path).map (·.id)).Perm entry.2.ids) (path : Path) :
    ((ownIdentifiers path entries ++ deepIdentifiers path entries).map (·.id)).Perm
      (entries.flatMap fun entry => entry.2.ids) := by
  induction entries with
  | nil => exact .refl _
  | cons entry rest ih =>
    obtain ⟨key, value⟩ := entry
    have others := ih fun other member => each other (List.mem_cons_of_mem _ member)
    have first := each (key, value) (List.mem_cons_self ..) (path.key key)
    rw [List.flatMap_cons]
    cases held : value.id? with
    | some i =>
      cases value <;> cases held
      simpa [ownIdentifiers, deepIdentifiers, Value.ids, Value.collect, Value.id?] using others
    | none =>
      have own : ownIdentifiers path ((key, value) :: rest) = ownIdentifiers path rest := by
        cases value <;> first | rfl | cases held
      have deep : deepIdentifiers path ((key, value) :: rest) =
          value.identifiers (path.key key) ++ deepIdentifiers path rest := by
        cases value <;> first | rfl | cases held
      rw [own, deep]
      simp only [List.map_append] at others ⊢
      rw [← List.append_assoc]
      refine (List.perm_append_comm.append_right _).trans ?_
      rw [List.append_assoc]
      exact first.append others

end Identifiers

theorem Value.ids_perm_identifiers (value : Value) (path : Path) :
    ((value.identifiers path).map (·.id)).Perm value.ids := by
  induction value using Value.induct generalizing path with
  | list items each =>
    rw [Value.identifiers, Value.ids_list]
    exact itemIdentifiers_perm each path 0
  | map entries each =>
    rw [Value.identifiers, Value.ids_map]
    exact entryIdentifiers_perm each path
  | scalar value scalar => cases value <;> first | exact .refl _ | cases scalar

end DeviceConfig
