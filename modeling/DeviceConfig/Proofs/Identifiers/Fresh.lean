import DeviceConfig.Proofs.Identifiers.Naming
import DeviceConfig.Proofs.Program.Names

/-!
The names that naming makes up differ from each other and from all that were taken before
(`Value.takes_nameGenerated`), and apart from them the value is what it was (`Value.Renames.unnamed_eq`).
-/

namespace DeviceConfig

section Unnamed

def ObjectId.unnamed (i : ObjectId) : ObjectId := if i.role = .generated then { i with name := "" } else i

mutual

/-- The value without the names that are made up. -/
def Value.unnamed : Value → Value
  | .id i => .id i.unnamed
  | .list items => .list (unnamedItems items)
  | .map entries => .map (unnamedEntries entries)
  | value => value

def unnamedItems : List Value → List Value
  | [] => []
  | item :: rest => item.unnamed :: unnamedItems rest

def unnamedEntries : List (String × Value) → List (String × Value)
  | [] => []
  | (key, value) :: rest => (key, value.unnamed) :: unnamedEntries rest

end

theorem unnamedItems_eq {items results : List Value} (pairs : List.Forall₂ Value.Renames items results)
    (each : ∀ item ∈ items, ∀ result, item.Renames result → result.unnamed = item.unnamed) :
    unnamedItems results = unnamedItems items := by
  induction pairs with
  | nil => rfl
  | cons first rest ih =>
    have here := each _ (List.mem_cons_self ..) _ first
    have others := ih fun item member => each item (List.mem_cons_of_mem _ member)
    rw [unnamedItems, unnamedItems, here, others]

theorem unnamedEntries_eq {entries results : Entries Value} (pairs : List.Forall₂ EntryRenames entries results)
    (each : ∀ entry ∈ entries, ∀ result, entry.2.Renames result → result.unnamed = entry.2.unnamed) :
    unnamedEntries results = unnamedEntries entries := by
  induction pairs with
  | nil => rfl
  | @cons entry result rest others first _ ih =>
    obtain ⟨key, value⟩ := entry
    obtain ⟨otherKey, named⟩ := result
    obtain ⟨same, renames⟩ := first
    obtain rfl : otherKey = key := same
    have here := each (otherKey, value) (List.mem_cons_self ..) named renames
    have tail := ih fun entry member => each entry (List.mem_cons_of_mem _ member)
    rw [unnamedEntries, unnamedEntries, here, tail]

theorem ObjectId.Renames.unnamed_eq {i j : ObjectId} (renames : i.Renames j) : j.unnamed = i.unnamed := by
  by_cases made : i.role = .generated
  · obtain ⟨taken, rfl⟩ := renames
    simp [rename_generated made, unnamed, made]
  · rw [renames.eq_of_role made]

theorem Value.Renames.unnamed_eq {value result : Value} (renames : value.Renames result) :
    result.unnamed = value.unnamed := by
  induction value using Value.induct generalizing result with
  | list items each =>
    cases renames with
    | list pairs =>
      rw [unnamed, unnamed, unnamedItems_eq pairs fun item member _ related => each item member related]
    | scalar scalar => cases scalar
  | map entries each =>
    cases renames with
    | map keys values =>
      have pairs := Value.renames_map_iff.mp (.map keys values)
      rw [unnamed, unnamed, unnamedEntries_eq pairs fun entry member _ related => each entry member related]
    | scalar scalar => cases scalar
  | scalar value scalar =>
    cases renames with
    | id renamed => rw [unnamed, unnamed, renamed.unnamed_eq]
    | list => cases scalar
    | map => cases scalar
    | scalar => rfl

end Unnamed

/-- The names of the identifiers that are made up. -/
def generatedNames (ids : List ObjectId) : List String := (ids.filter (·.role = .generated)).map (·.name)

theorem generatedNames_append (before after : List ObjectId) :
    generatedNames (before ++ after) = generatedNames before ++ generatedNames after := by
  rw [generatedNames, List.filter_append, List.map_append]
  rfl

/-- The second list of names is the first with the given ones, which differ and were free. -/
structure Takes (taken after names : List String) : Prop where
  perm : after.Perm (names ++ taken)
  differ : names.Nodup
  free : ∀ name ∈ names, name ∉ taken

namespace Takes

variable {taken between after names others : List String}

theorem refl (taken : List String) : Takes taken taken [] :=
  ⟨.refl _, List.nodup_nil, fun _ member => nomatch member⟩

theorem trans (first : Takes taken between names) (second : Takes between after others) :
    Takes taken after (names ++ others) := by
  have kept {name : String} (member : name ∈ names ++ taken) : name ∈ between := first.perm.mem_iff.mpr member
  refine ⟨?_, ?_, fun name member => ?_⟩
  · have whole := second.perm.trans (first.perm.append_left others)
    rw [← List.append_assoc] at whole
    exact whole.trans (List.perm_append_comm.append_right taken)
  · refine List.nodup_append.mpr ⟨first.differ, second.differ, fun name made other later same => ?_⟩
    exact second.free other later (kept (List.mem_append_left _ (same ▸ made)))
  · rcases List.mem_append.mp member with made | later
    · exact first.free name made
    · exact fun before => second.free name later (kept (List.mem_append_right _ before))

theorem congr (takes : Takes taken after names) (same : names.Perm others) : Takes taken after others :=
  ⟨takes.perm.trans (same.append_right taken), same.nodup_iff.mp takes.differ,
    fun name member => takes.free name (same.mem_iff.mpr member)⟩

end Takes

/-- A relation between the names that are taken before and after, and the identifiers that are named between: it
    holds of many identifiers if it holds of each. -/
structure Naming.IsClosed (holds : List String → List String → List ObjectId → Prop) : Prop where
  refl : ∀ taken, holds taken taken []
  trans : ∀ {taken between after : List String} {ids others : List ObjectId},
    holds taken between ids → holds between after others → holds taken after (ids ++ others)
  congr : ∀ {taken after : List String} {ids others : List ObjectId},
    holds taken after ids → ids.Perm others → holds taken after others
  rename : ∀ (i : ObjectId) (taken : List String), holds taken (i.rename taken).2 [(i.rename taken).1]

namespace Naming.IsClosed

variable {holds : List String → List String → List ObjectId → Prop} (closed : IsClosed holds)
include closed

theorem mapM (ids : List ObjectId) (taken : List String) :
    holds taken (ids.mapM ObjectId.rename taken).2 (ids.mapM ObjectId.rename taken).1 := by
  induction ids generalizing taken with
  | nil => exact closed.refl taken
  | cons i rest ih =>
    rw [mapM_rename_cons]
    exact closed.trans (closed.rename i taken) (ih (i.rename taken).2)

theorem nameItems {items : List Value}
    (each : ∀ item ∈ items, ∀ taken, holds taken (item.nameGenerated taken).2 (item.nameGenerated taken).1.ids)
    (taken : List String) :
    holds taken (DeviceConfig.nameItems items taken).2
      ((DeviceConfig.nameItems items taken).1.flatMap Value.ids) := by
  induction items generalizing taken with
  | nil => exact closed.refl taken
  | cons item rest ih =>
    rw [nameItems_cons, List.flatMap_cons]
    exact closed.trans (each item List.mem_cons_self taken)
      (ih (fun other member => each other (List.mem_cons_of_mem _ member)) _)

/-- Of the identifiers in the entries, those that the mapping holds itself were named before. -/
theorem exists_nameEntries {entries : Entries Value} {held : List ObjectId}
    (all : held.length = (heldIds entries).length)
    (each : ∀ entry ∈ entries, ∀ taken,
      holds taken (entry.2.nameGenerated taken).2 (entry.2.nameGenerated taken).1.ids) (taken : List String) :
    ∃ deeper, holds taken (nameEntries held entries taken).2 deeper ∧
      (held ++ deeper).Perm ((nameEntries held entries taken).1.flatMap fun entry => entry.2.ids) := by
  induction entries generalizing held taken with
  | nil =>
    obtain rfl := List.eq_nil_of_length_eq_zero all
    exact ⟨[], closed.refl taken, .refl _⟩
  | cons entry rest ih =>
    obtain ⟨key, value⟩ := entry
    have others := fun other member => each other (List.mem_cons_of_mem (key, value) member)
    cases kind : value.id? with
    | some i =>
      cases eq_id_of_id? kind
      cases held with
      | nil => cases all
      | cons first tail =>
        obtain ⟨deeper, inside, same⟩ := ih (Nat.succ.inj all) others taken
        refine ⟨deeper, inside, ?_⟩
        rw [nameEntries_id, List.flatMap_cons]
        exact same.cons first
    | none =>
      rw [heldIds_cons key kind] at all
      have here := each (key, value) List.mem_cons_self taken
      obtain ⟨deeper, inside, same⟩ := ih all others (value.nameGenerated taken).2
      rw [nameEntries_cons taken held key kind]
      refine ⟨_, closed.trans here inside, ?_⟩
      rw [List.flatMap_cons, ← List.append_assoc]
      refine (List.perm_append_comm.append_right deeper).trans ?_
      rw [List.append_assoc]
      exact same.append_left _

/-- It holds of all identifiers of a value. -/
theorem nameGenerated (value : Value) (taken : List String) :
    holds taken (value.nameGenerated taken).2 (value.nameGenerated taken).1.ids := by
  induction value using Value.induct generalizing taken with
  | list items each =>
    rw [nameGenerated_list, Value.ids_list]
    exact closed.nameItems each taken
  | map entries each =>
    have first := closed.mapM (heldIds entries) taken
    have all := (renames_mapM (heldIds entries) taken).length_eq.symm
    obtain ⟨deeper, inside, same⟩ :=
      closed.exists_nameEntries all each ((heldIds entries).mapM ObjectId.rename taken).2
    rw [nameGenerated_map, Value.ids_map]
    exact closed.congr (closed.trans first inside) same
  | scalar value scalar =>
    cases kind : value.id? with
    | some i =>
      cases eq_id_of_id? kind
      rw [nameGenerated_id]
      exact closed.rename i taken
    | none =>
      have nothing : value.ids = [] := by
        cases value with
        | id i => cases kind
        | list items => cases scalar
        | map entries => cases scalar
        | _ => rfl
      rw [nameGenerated_scalar taken scalar kind, nothing]
      exact closed.refl taken

end Naming.IsClosed

theorem takes_rename (i : ObjectId) (taken : List String) :
    Takes taken (i.rename taken).2 (generatedNames [(i.rename taken).1]) := by
  by_cases made : i.role = .generated
  · rw [ObjectId.rename_generated made]
    have own : generatedNames [{ i with name := Cpp.fresh i.type.nameHint taken }] =
        [Cpp.fresh i.type.nameHint taken] := by simp [generatedNames, made]
    rw [own]
    refine ⟨.refl _, List.nodup_singleton _, fun name member => ?_⟩
    rw [List.mem_singleton.mp member]
    exact Cpp.fresh_notMem _ _
  · rw [ObjectId.rename_of_role made]
    simpa [generatedNames, made] using Takes.refl taken

theorem isClosed_takes : Naming.IsClosed fun taken after ids => Takes taken after (generatedNames ids) where
  refl := Takes.refl
  trans first second := by
    rw [generatedNames_append]
    exact first.trans second
  congr takes same := takes.congr ((same.filter _).map _)
  rename := takes_rename

theorem Value.takes_nameGenerated (value : Value) (taken : List String) :
    Takes taken (value.nameGenerated taken).2 (generatedNames (value.nameGenerated taken).1.ids) :=
  isClosed_takes.nameGenerated value taken

/-- Each name that is made up is the first free one among names that are all taken in the end. -/
structure Fills (taken after : List String) (ids : List ObjectId) : Prop where
  kept : ∀ name ∈ taken, name ∈ after
  each : ∀ id ∈ ids, id.role = .generated →
    ∃ earlier, id.name = Cpp.fresh id.type.nameHint earlier ∧ ∀ name ∈ earlier, name ∈ after

theorem fills_rename (i : ObjectId) (taken : List String) : Fills taken (i.rename taken).2 [(i.rename taken).1] := by
  by_cases made : i.role = .generated
  · rw [ObjectId.rename_generated made]
    refine ⟨fun _ => List.mem_cons_of_mem _, fun id member _ => ?_⟩
    rw [List.mem_singleton.mp member]
    exact ⟨taken, rfl, fun _ => List.mem_cons_of_mem _⟩
  · rw [ObjectId.rename_of_role made]
    refine ⟨fun _ => id, fun id member madeToo => ?_⟩
    obtain rfl : id = i := List.mem_singleton.mp member
    exact absurd madeToo made

theorem isClosed_fills : Naming.IsClosed Fills where
  refl _ := ⟨fun _ => id, List.forall_mem_nil _⟩
  trans first second := by
    refine ⟨fun name member => second.kept name (first.kept name member), fun id member made => ?_⟩
    rcases List.mem_append.mp member with before | later
    · obtain ⟨earlier, same, inside⟩ := first.each id before made
      exact ⟨earlier, same, fun name member => second.kept name (inside name member)⟩
    · exact second.each id later made
  congr fills same := ⟨fills.kept, fun id member => fills.each id (same.mem_iff.mpr member)⟩
  rename := fills_rename

end DeviceConfig
