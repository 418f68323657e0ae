import DeviceConfig.Proofs.Schema.Combinators
import DeviceConfig.Proofs.Value.Entries

/-!
Naming the made-up identifiers of a value changes their names and nothing else
(`Value.renames_nameGenerated`). What the names were before does not matter, so naming again gives the
same (`Value.Renames.nameGenerated_eq`), and neither the declared nor the used identifiers change
(`Value.Renames.identifiers`).
-/

namespace DeviceConfig

/-- The second identifier is the first as it is named. -/
def ObjectId.Renames (i j : ObjectId) : Prop := ∃ taken, (i.rename taken).1 = j

namespace ObjectId

variable {i j : ObjectId}

theorem rename_of_role (kept : i.role ≠ .generated) (taken : List String) : i.rename taken = (i, taken) := by
  rw [rename, if_neg kept]

theorem rename_generated (made : i.role = .generated) (taken : List String) :
    i.rename taken = ({ i with name := Cpp.fresh i.type.nameHint taken },
      Cpp.fresh i.type.nameHint taken :: taken) := by
  rw [rename, if_pos made]

theorem renames_rename (i : ObjectId) (taken : List String) : i.Renames (i.rename taken).1 :=
  ⟨taken, rfl⟩

theorem Renames.eq_of_role (renames : i.Renames j) (kept : i.role ≠ .generated) : j = i := by
  obtain ⟨taken, rfl⟩ := renames
  rw [rename_of_role kept]

theorem Renames.role_eq (renames : i.Renames j) : j.role = i.role := by
  by_cases made : i.role = .generated
  · obtain ⟨taken, rfl⟩ := renames
    rw [rename_generated made]
  · rw [renames.eq_of_role made]

theorem Renames.type_eq (renames : i.Renames j) : j.type = i.type := by
  by_cases made : i.role = .generated
  · obtain ⟨taken, rfl⟩ := renames
    rw [rename_generated made]
  · rw [renames.eq_of_role made]

theorem Renames.rename_eq (renames : i.Renames j) (taken : List String) :
    j.rename taken = i.rename taken := by
  by_cases made : i.role = .generated
  · have madeToo : j.role = .generated := renames.role_eq.trans made
    rw [rename_generated made, rename_generated madeToo, renames.type_eq]
    obtain ⟨before, rfl⟩ := renames
    rw [rename_generated made]
  · rw [renames.eq_of_role made]

end ObjectId

/-- The second value is the first with other names for what is made up. -/
inductive Value.Renames : Value → Value → Prop where
  | id {i j : ObjectId} : i.Renames j → Renames (.id i) (.id j)
  | list {items results : List Value} :
    List.Forall₂ Renames items results → Renames (.list items) (.list results)
  | map {entries results : List (String × Value)} : Entries.keys results = Entries.keys entries →
    List.Forall₂ Renames (entries.map (·.2)) (results.map (·.2)) →
    Renames (.map entries) (.map results)
  | scalar {value : Value} : value.isCollection = false → value.id? = none → Renames value value

/-- The entry has the key of the other, and its value is that of the other as it is named. -/
def EntryRenames (entry result : String × Value) : Prop := result.1 = entry.1 ∧ entry.2.Renames result.2

theorem Value.renames_map_iff {entries results : Entries Value} :
    (Value.map entries).Renames (.map results) ↔ List.Forall₂ EntryRenames entries results := by
  constructor
  · intro renames
    cases renames with
    | map keys values =>
      induction entries generalizing results with
      | nil =>
        cases results with
        | nil => exact .nil
        | cons entry rest => cases keys
      | cons entry rest ih =>
        cases results with
        | nil => cases keys
        | cons result others =>
          cases values with
          | cons first tail =>
            obtain ⟨sameKey, sameKeys⟩ := List.cons.inj keys
            exact .cons ⟨sameKey, first⟩ (ih sameKeys tail)
    | scalar scalar => cases scalar
  · intro pairs
    have keys : Entries.keys results = Entries.keys entries := by
      induction pairs with
      | nil => rfl
      | cons first rest ih => exact congrArg₂ List.cons first.1 ih
    refine .map keys ?_
    rw [List.forall₂_map_left_iff, List.forall₂_map_right_iff]
    exact pairs.imp fun _ _ related => related.2

section Steps

variable (taken : List String)

theorem nameGenerated_list (items : List Value) :
    (Value.list items).nameGenerated taken =
      (.list (nameItems items taken).1, (nameItems items taken).2) := rfl

theorem nameGenerated_map (entries : Entries Value) :
    (Value.map entries).nameGenerated taken =
      let held := (heldIds entries).mapM ObjectId.rename taken
      (.map (nameEntries held.1 entries held.2).1, (nameEntries held.1 entries held.2).2) := rfl

theorem nameGenerated_id (i : ObjectId) :
    (Value.id i).nameGenerated taken = (.id (i.rename taken).1, (i.rename taken).2) := rfl

theorem nameGenerated_scalar {value : Value} (scalar : value.isCollection = false)
    (other : value.id? = none) : value.nameGenerated taken = (value, taken) := by
  cases value with
  | id i => cases other
  | list items => cases scalar
  | map entries => cases scalar
  | _ => rfl

theorem nameItems_cons (item : Value) (rest : List Value) :
    nameItems (item :: rest) taken =
      let named := item.nameGenerated taken
      (named.1 :: (nameItems rest named.2).1, (nameItems rest named.2).2) := rfl

theorem mapM_rename_cons (i : ObjectId) (rest : List ObjectId) :
    (i :: rest).mapM ObjectId.rename taken =
      let named := i.rename taken
      (named.1 :: (rest.mapM ObjectId.rename named.2).1, (rest.mapM ObjectId.rename named.2).2) := by
  rw [List.mapM_cons]
  rfl

theorem nameEntries_id (held : List ObjectId) (key : String) (i : ObjectId) (rest : Entries Value) :
    nameEntries held ((key, .id i) :: rest) taken =
      let others := nameEntries held.tail rest taken
      ((key, .id (held.headD i)) :: others.1, others.2) := rfl

theorem nameEntries_cons (held : List ObjectId) (key : String) {value : Value} (other : value.id? = none)
    (rest : Entries Value) :
    nameEntries held ((key, value) :: rest) taken =
      let named := value.nameGenerated taken
      let others := nameEntries held rest named.2
      ((key, named.1) :: others.1, others.2) := by
  cases value with
  | id i => cases other
  | _ => rfl

theorem heldIds_cons (key : String) {value : Value} (other : value.id? = none) (rest : Entries Value) :
    heldIds ((key, value) :: rest) = heldIds rest := by
  cases value with
  | id i => cases other
  | _ => rfl

end Steps

theorem ownIdentifiers_cons (path : Path) (key : String) {value : Value} (other : value.id? = none)
    (rest : Entries Value) :
    ownIdentifiers path ((key, value) :: rest) = ownIdentifiers path rest := by
  cases value with
  | id i => cases other
  | _ => rfl

theorem deepIdentifiers_cons (path : Path) (key : String) {value : Value} (other : value.id? = none)
    (rest : Entries Value) :
    deepIdentifiers path ((key, value) :: rest) =
      value.identifiers (path.key key) ++ deepIdentifiers path rest := by
  cases value with
  | id i => cases other
  | _ => rfl

theorem eq_id_of_id? {value : Value} {i : ObjectId} (held : value.id? = some i) : value = .id i := by
  cases value with
  | id j => cases held; rfl
  | _ => cases held

section Renaming

theorem renames_mapM (ids : List ObjectId) (taken : List String) :
    List.Forall₂ ObjectId.Renames ids (ids.mapM ObjectId.rename taken).1 := by
  induction ids generalizing taken with
  | nil => exact .nil
  | cons i rest ih =>
    rw [mapM_rename_cons]
    exact .cons (i.renames_rename taken) (ih _)

theorem renames_nameItems {items : List Value}
    (each : ∀ item ∈ items, ∀ taken, item.Renames (item.nameGenerated taken).1) (taken : List String) :
    List.Forall₂ Value.Renames items (nameItems items taken).1 := by
  induction items generalizing taken with
  | nil => exact .nil
  | cons item rest ih =>
    rw [nameItems_cons]
    exact .cons (each item (List.mem_cons_self ..) taken)
      (ih (fun other member => each other (List.mem_cons_of_mem _ member)) _)

theorem renames_nameEntries {entries : Entries Value} {held : List ObjectId}
    (named : List.Forall₂ ObjectId.Renames (heldIds entries) held)
    (each : ∀ entry ∈ entries, ∀ taken, entry.2.Renames (entry.2.nameGenerated taken).1)
    (taken : List String) :
    List.Forall₂ EntryRenames entries (nameEntries held entries taken).1 := by
  induction entries generalizing held taken with
  | nil => exact .nil
  | cons entry rest ih =>
    obtain ⟨key, value⟩ := entry
    have others := fun other member => each other (List.mem_cons_of_mem (key, value) member)
    cases kind : value.id? with
    | some i =>
      cases eq_id_of_id? kind
      rw [heldIds] at named
      cases named with
      | cons first tail =>
        rw [nameEntries_id]
        exact .cons ⟨rfl, .id first⟩ (ih tail others taken)
    | none =>
      rw [heldIds_cons key kind] at named
      rw [nameEntries_cons taken held key kind]
      exact .cons ⟨rfl, each (key, value) (List.mem_cons_self ..) taken⟩ (ih named others _)

/-- Naming changes made-up names and nothing else. -/
theorem Value.renames_nameGenerated (value : Value) (taken : List String) :
    value.Renames (value.nameGenerated taken).1 := by
  induction value using Value.induct generalizing taken with
  | list items each =>
    rw [nameGenerated_list]
    exact .list (renames_nameItems each taken)
  | map entries each =>
    rw [nameGenerated_map]
    exact renames_map_iff.mpr (renames_nameEntries (renames_mapM _ _) each _)
  | scalar value scalar =>
    cases kind : value.id? with
    | some i =>
      cases eq_id_of_id? kind
      rw [nameGenerated_id]
      exact .id (i.renames_rename taken)
    | none =>
      rw [nameGenerated_scalar taken scalar kind]
      exact .scalar scalar kind

end Renaming

section Again

theorem Value.Renames.id?_eq_none {value result : Value} (renames : value.Renames result)
    (other : value.id? = none) : result.id? = none := by
  cases renames with
  | id => cases other
  | list => rfl
  | map => rfl
  | scalar => exact other

/-- The entries of a mapping that hold an identifier, and the others. -/
@[elab_as_elim]
theorem entryRenames_induct
    {motive : ∀ entries results : Entries Value, List.Forall₂ EntryRenames entries results → Prop}
    (nil : motive [] [] .nil)
    (held : ∀ key i j rest others (renamed : i.Renames j) pairs, motive rest others pairs →
      motive ((key, .id i) :: rest) ((key, .id j) :: others) (.cons ⟨rfl, .id renamed⟩ pairs))
    (other : ∀ key value result rest others (renames : value.Renames result) pairs, value.id? = none →
      result.id? = none → motive rest others pairs →
      motive ((key, value) :: rest) ((key, result) :: others) (.cons ⟨rfl, renames⟩ pairs))
    {entries results : Entries Value} (pairs : List.Forall₂ EntryRenames entries results) :
    motive entries results pairs := by
  induction pairs with
  | nil => exact nil
  | @cons entry result rest others first tail ih =>
    obtain ⟨key, value⟩ := entry
    obtain ⟨otherKey, named⟩ := result
    obtain ⟨same, renames⟩ := first
    obtain rfl : otherKey = key := same
    cases kind : value.id? with
    | some i =>
      cases eq_id_of_id? kind
      cases renames with
      | id renamed => exact held _ _ _ _ _ renamed tail ih
      | scalar scalar none => cases none
    | none => exact other _ _ _ _ _ renames tail kind (renames.id?_eq_none kind) ih

theorem renames_heldIds {entries results : Entries Value} (pairs : List.Forall₂ EntryRenames entries results) :
    List.Forall₂ ObjectId.Renames (heldIds entries) (heldIds results) := by
  induction pairs using entryRenames_induct with
  | nil => exact .nil
  | held key i j rest others renamed pairs ih => exact .cons renamed ih
  | other key value result rest others renames pairs kind kindToo ih =>
    rw [heldIds_cons key kind, heldIds_cons key kindToo]
    exact ih

theorem mapM_rename_eq {ids others : List ObjectId} (pairs : List.Forall₂ ObjectId.Renames ids others)
    (taken : List String) :
    others.mapM ObjectId.rename taken = ids.mapM ObjectId.rename taken := by
  induction pairs generalizing taken with
  | nil => rfl
  | cons first rest ih =>
    rw [mapM_rename_cons, mapM_rename_cons, first.rename_eq]
    simp only [ih]

theorem nameItems_eq {items results : List Value} (pairs : List.Forall₂ Value.Renames items results)
    (each : ∀ item ∈ items, ∀ result, item.Renames result → ∀ taken,
      result.nameGenerated taken = item.nameGenerated taken) (taken : List String) :
    nameItems results taken = nameItems items taken := by
  induction pairs generalizing taken with
  | nil => rfl
  | cons first rest ih =>
    have here := each _ (List.mem_cons_self ..) _ first taken
    have others := ih fun item member => each item (List.mem_cons_of_mem _ member)
    rw [nameItems_cons, nameItems_cons, here]
    simp only [others]

/-- The identifiers that a mapping holds are taken from the list of them, so that their own names do not
    matter as long as the list has all of them. -/
theorem nameEntries_eq {entries results : Entries Value} (pairs : List.Forall₂ EntryRenames entries results)
    (each : ∀ entry ∈ entries, ∀ result, entry.2.Renames result → ∀ taken,
      result.nameGenerated taken = entry.2.nameGenerated taken)
    {held : List ObjectId} (enough : held.length = (heldIds entries).length) (taken : List String) :
    nameEntries held results taken = nameEntries held entries taken := by
  induction pairs using entryRenames_induct generalizing held taken with
  | nil => rfl
  | held key i j rest others renamed pairs ih =>
    cases held with
    | nil => cases enough
    | cons first held =>
      have tail := ih (fun entry member => each entry (List.mem_cons_of_mem _ member))
        (Nat.succ.inj enough : held.length = _) taken
      rw [nameEntries_id, nameEntries_id, List.tail_cons, tail]
      rfl
  | other key value result rest others renames pairs kind kindToo ih =>
    have here := each (key, value) (List.mem_cons_self ..) result renames taken
    rw [heldIds_cons key kind] at enough
    rw [nameEntries_cons taken held key kind, nameEntries_cons taken held key kindToo, here]
    simp only [ih (fun entry member => each entry (List.mem_cons_of_mem _ member)) enough]

theorem Value.Renames.nameGenerated_eq {value result : Value} (renames : value.Renames result)
    (taken : List String) : result.nameGenerated taken = value.nameGenerated taken := by
  induction value using Value.induct generalizing result taken with
  | list items each =>
    cases renames with
    | list pairs =>
      rw [nameGenerated_list, nameGenerated_list,
        nameItems_eq pairs fun item member result related taken => each item member related taken]
    | scalar scalar => cases scalar
  | map entries each =>
    cases renames with
    | map keys values =>
      have pairs := Value.renames_map_iff.mp (.map keys values)
      have same := mapM_rename_eq (renames_heldIds pairs) taken
      have counted : ((heldIds entries).mapM ObjectId.rename taken).1.length = (heldIds entries).length :=
        (renames_mapM _ taken).length_eq.symm
      rw [nameGenerated_map, nameGenerated_map, same]
      simp only [nameEntries_eq pairs (fun entry member result related taken =>
        each entry member related taken) counted]
    | scalar scalar => cases scalar
  | scalar value scalar =>
    cases renames with
    | id renamed => rw [nameGenerated_id, nameGenerated_id, renamed.rename_eq]
    | list => cases scalar
    | map => cases scalar
    | scalar => rfl

end Again

section Places

/-- The identifier stands at the place of the other and is the other as it is named. -/
def Placed.Renames (p q : Placed) : Prop := q.path = p.path ∧ p.id.Renames q.id

theorem renames_itemIdentifiers {items results : List Value}
    (pairs : List.Forall₂ Value.Renames items results)
    (each : ∀ item ∈ items, ∀ result, item.Renames result → ∀ path,
      List.Forall₂ Placed.Renames (item.identifiers path) (result.identifiers path))
    (path : Path) (position : Nat) :
    List.Forall₂ Placed.Renames (itemIdentifiers path position items)
      (itemIdentifiers path position results) := by
  induction pairs generalizing position with
  | nil => exact .nil
  | cons first rest ih =>
    have here := each _ (List.mem_cons_self ..) _ first (path.index position)
    have others := ih (fun item member => each item (List.mem_cons_of_mem _ member)) (position + 1)
    exact List.rel_append here others

theorem renames_ownIdentifiers {entries results : Entries Value}
    (pairs : List.Forall₂ EntryRenames entries results) (path : Path) :
    List.Forall₂ Placed.Renames (ownIdentifiers path entries) (ownIdentifiers path results) := by
  induction pairs using entryRenames_induct with
  | nil => exact .nil
  | held key i j rest others renamed pairs ih => exact .cons ⟨rfl, renamed⟩ ih
  | other key value result rest others renames pairs kind kindToo ih =>
    rw [ownIdentifiers_cons path key kind, ownIdentifiers_cons path key kindToo]
    exact ih

theorem renames_deepIdentifiers {entries results : Entries Value}
    (pairs : List.Forall₂ EntryRenames entries results)
    (each : ∀ entry ∈ entries, ∀ result, entry.2.Renames result → ∀ path,
      List.Forall₂ Placed.Renames (entry.2.identifiers path) (result.identifiers path)) (path : Path) :
    List.Forall₂ Placed.Renames (deepIdentifiers path entries) (deepIdentifiers path results) := by
  induction pairs using entryRenames_induct with
  | nil => exact .nil
  | held key i j rest others renamed pairs ih =>
    exact ih fun entry member => each entry (List.mem_cons_of_mem _ member)
  | other key value result rest others renames pairs kind kindToo ih =>
    have here := each (key, value) (List.mem_cons_self ..) result renames (path.key key)
    have tail := ih fun entry member => each entry (List.mem_cons_of_mem _ member)
    rw [deepIdentifiers_cons path key kind, deepIdentifiers_cons path key kindToo]
    exact List.rel_append here tail

theorem Value.Renames.identifiers {value result : Value} (renames : value.Renames result) (path : Path) :
    List.Forall₂ Placed.Renames (value.identifiers path) (result.identifiers path) := by
  induction value using Value.induct generalizing result path with
  | list items each =>
    cases renames with
    | list pairs =>
      exact renames_itemIdentifiers pairs (fun item member _ related place =>
        each item member related place) path 0
    | scalar scalar => cases scalar
  | map entries each =>
    cases renames with
    | map keys values =>
      have pairs := Value.renames_map_iff.mp (.map keys values)
      exact List.rel_append (renames_ownIdentifiers pairs path)
        (renames_deepIdentifiers pairs (fun entry member _ related place =>
          each entry member related place) path)
    | scalar scalar => cases scalar
  | scalar value scalar =>
    cases renames with
    | id renamed => exact .cons ⟨rfl, renamed⟩ .nil
    | list => cases scalar
    | map => cases scalar
    | scalar scalar none =>
      have nothing : value.identifiers path = [] := by
        cases value with
        | id => cases none
        | list => cases scalar
        | map => cases scalar
        | _ => rfl
      rw [nothing]
      exact .nil

theorem filter_role_eq {role : IdRole} (other : role ≠ .generated) {ps qs : List Placed}
    (pairs : List.Forall₂ Placed.Renames ps qs) :
    qs.filter (fun q => q.id.role = role) = ps.filter fun p => p.id.role = role := by
  induction pairs with
  | nil => rfl
  | @cons p q rest others first _ ih =>
    obtain ⟨samePath, renames⟩ := first
    by_cases ofRole : p.id.role = role
    · have same : q = p := by
        obtain ⟨id, place⟩ := p
        obtain ⟨named, otherPlace⟩ := q
        have kept : id.role ≠ .generated := fun made => other (ofRole.symm.trans made)
        simp only at samePath renames
        rw [samePath, renames.eq_of_role kept]
      rw [same, List.filter_cons_of_pos (by simpa using ofRole),
        List.filter_cons_of_pos (by simpa using ofRole), ih]
    · have notToo : ¬q.id.role = role := by
        rw [renames.role_eq]
        exact ofRole
      rw [List.filter_cons_of_neg (by simpa using notToo),
        List.filter_cons_of_neg (by simpa using ofRole), ih]

/-- The identifiers of one role. -/
def Node.identifiersOf (node : Node) (role : IdRole) : List Placed :=
  node.identifiers.filter fun p => p.id.role = role

/-- The document with its made-up identifiers named. -/
def Node.named (node : Node) : Node :=
  ⟨node.path, (node.value.nameGenerated
    ((Placed.firsts (node.identifiersOf .declared)).map (·.id.name))).1⟩

theorem Node.resolveIdentifiers_eq (node : Node) :
    node.resolveIdentifiers =
      (Placed.redefinitions [] (node.identifiersOf .declared) ++
        (node.identifiersOf .used).filterMap
          (Placed.checkUse (Placed.firsts (node.identifiersOf .declared))), node.named) := rfl

theorem Node.renames_named (node : Node) : node.value.Renames node.named.value :=
  node.value.renames_nameGenerated _

theorem Node.identifiersOf_named (node : Node) {role : IdRole} (other : role ≠ .generated) :
    node.named.identifiersOf role = node.identifiersOf role :=
  filter_role_eq other (node.renames_named.identifiers node.path)

theorem Node.named_named (node : Node) : node.named.named = node.named := by
  have declared := @identifiersOf_named node .declared (by decide)
  rw [named, declared, node.renames_named.nameGenerated_eq]
  rfl

theorem Node.resolveIdentifiers_named (node : Node) :
    node.named.resolveIdentifiers = node.resolveIdentifiers := by
  rw [resolveIdentifiers_eq, resolveIdentifiers_eq, named_named,
    @identifiersOf_named node .declared (by decide),
    @identifiersOf_named node .used (by decide)]

end Places

end DeviceConfig
