import DeviceConfig.Proofs.Lists
import DeviceConfig.Proofs.Value.Parts
import DeviceConfig.Schema.Check

/-!
What the checks of lists and of mappings with a chosen key make of a value: each part of the result is
what a check makes of a part of the value, or of the value itself (`Check.oneOrMany_gives`,
`Check.automation_gives`).
-/

namespace DeviceConfig

/-- Somewhere in a document, the check makes this of the value. -/
def Check.Gives (check : Check) (value result : Value) : Prop :=
  ∃ path, check ⟨path, value⟩ = .ok result

/-- The values that a collection holds itself. -/
def Value.parts : Value → List Value
  | .list items => items
  | .map entries => entries.map (·.2)
  | _ => []

theorem Value.keysDiffer_of_mem_parts {value part : Value} (differ : value.keysDiffer = true)
    (member : part ∈ value.parts) : part.keysDiffer = true := by
  cases value with
  | list items => exact keysDiffer_list.mp differ part member
  | map entries =>
    obtain ⟨entry, inside, rfl⟩ := List.mem_map.mp member
    exact (keysDiffer_map.mp differ).2 entry inside
  | _ => cases member

theorem Node.itemsFrom_values (path : Path) (first : Nat) (values : List Value) :
    (itemsFrom path first values).map (·.value) = values := by
  induction values generalizing first with
  | nil => rfl
  | cons value rest ih => rw [itemsFrom, List.map_cons, ih]

theorem Node.value_mem_of_mem_items {path : Path} {values : List Value} {item : Node}
    (member : item ∈ (Node.mk path (.list values)).items) : item.value ∈ values := by
  have mapped := List.mem_map_of_mem (f := (·.value)) member
  rwa [Node.items, itemsFrom_values] at mapped

namespace Check

theorem ofScalar_eq_ok_iff {read : Value → Scalar.Read} {node : Node} {value : Value} :
    ofScalar read node = .ok value ↔ read node.value = .ok value := by
  unfold ofScalar
  cases read node.value <;> simp

section Lists

variable {check : Check} {nodes : List Node} {node : Node} {result : Value}

theorem gather_eq_iff {values : List Value} :
    gather check nodes = ([], values) ↔
      List.Forall₂ (fun node value => check node = .ok value) nodes values := by
  induction nodes generalizing values with
  | nil => simp [gather, eq_comm]
  | cons node rest ih =>
    rw [gather, List.forall₂_cons_left_iff]
    cases first : check node with
    | error problems => simp
    | ok value =>
      rcases found : gather check rest with ⟨problems, others⟩
      constructor
      · intro gathered
        simp only [Prod.mk.injEq] at gathered
        obtain ⟨rfl, rfl⟩ := gathered
        exact ⟨value, others, rfl, ih.mp found, rfl⟩
      · rintro ⟨_, others, same, tail, rfl⟩
        cases same
        rw [ih.mpr tail] at found
        cases found
        rfl

theorem each_eq_ok_iff :
    each check nodes = .ok result ↔
      ∃ values, result = .list values ∧
        List.Forall₂ (fun node value => check node = .ok value) nodes values := by
  unfold each
  rcases found : gather check nodes with ⟨problems, values⟩
  cases problems with
  | nil =>
    simp only [List.isEmpty_nil, if_true, Except.ok.injEq]
    constructor
    · rintro rfl
      exact ⟨values, rfl, gather_eq_iff.mp found⟩
    · rintro ⟨others, rfl, tail⟩
      rw [gather_eq_iff.mpr tail] at found
      cases found
      rfl
  | cons problem problems =>
    simp only [List.isEmpty_cons, Bool.false_eq_true, if_false, reduceCtorEq, false_iff]
    rintro ⟨others, rfl, tail⟩
    rw [gather_eq_iff.mpr tail] at found
    cases found

theorem each_gives (accepted : each check nodes = .ok result) :
    ∃ values, result = .list values ∧ values.length = nodes.length ∧
      ∀ value ∈ values, ∃ node ∈ nodes, check.Gives node.value value := by
  obtain ⟨values, rfl, related⟩ := each_eq_ok_iff.mp accepted
  refine ⟨values, rfl, related.length_eq.symm, fun value member => ?_⟩
  obtain ⟨node, inside, given⟩ := exists_mem_left_of_forall₂ related member
  exact ⟨node, inside, node.path, given⟩

theorem items_list {items : List Value}
    (stay : ∀ item ∈ items, ∀ path, check ⟨path, item⟩ = .ok item) (path : Path) :
    Check.items check ⟨path, .list items⟩ = .ok (.list items) := by
  refine each_eq_ok_iff.mpr ⟨items, rfl, ?_⟩
  simp only [Node.items]
  generalize 0 = first
  induction items generalizing first with
  | nil => exact .nil
  | cons item rest ih =>
    have here := stay item (List.mem_cons_self ..) (path.index first)
    exact .cons here (ih (fun other member => stay other (List.mem_cons_of_mem _ member)) (first + 1))

theorem items_gives (accepted : items check node = .ok result) :
    ∃ values, result = .list values ∧
      ∀ value ∈ values, ∃ part ∈ node.value.parts, check.Gives part value := by
  obtain ⟨values, rfl, -, origin⟩ := each_gives accepted
  refine ⟨values, rfl, fun value member => ?_⟩
  obtain ⟨item, inside, given⟩ := origin value member
  obtain ⟨path, whole⟩ := node
  cases whole with
  | list items => exact ⟨item.value, Node.value_mem_of_mem_items inside, given⟩
  | _ => cases inside

theorem listOf_gives (accepted : listOf check node = .ok result) :
    ∃ values, result = .list values ∧
      ∀ value ∈ values, ∃ part ∈ node.value.parts, check.Gives part value := by
  unfold listOf at accepted
  split at accepted
  · exact items_gives accepted
  · cases accepted

theorem oneOrMany_gives (accepted : oneOrMany check node = .ok result) :
    ∃ values, result = .list values ∧
      ∀ value ∈ values, ∃ part ∈ node.value :: node.value.parts, check.Gives part value := by
  unfold oneOrMany at accepted
  split at accepted
  · obtain ⟨values, rfl, origin⟩ := items_gives accepted
    refine ⟨values, rfl, fun value member => ?_⟩
    obtain ⟨part, inside, given⟩ := origin value member
    exact ⟨part, List.mem_cons_of_mem _ inside, given⟩
  · cases accepted
    exact ⟨[], rfl, fun value member => nomatch member⟩
  · obtain ⟨values, rfl, origin⟩ := items_gives accepted
    refine ⟨values, rfl, fun value member => ?_⟩
    obtain ⟨part, inside, given⟩ := origin value member
    cases List.mem_singleton.mp inside
    exact ⟨node.value, List.mem_cons_self .., given⟩

theorem templatable_gives (accepted : templatable check node = .ok result) :
    (∃ code, node.value = .lambda code ∧ result = .lambda code) ∨ check.Gives node.value result := by
  unfold templatable at accepted
  split at accepted
  · rename_i code same
    cases accepted
    exact .inl ⟨code, same, rfl⟩
  · exact .inr ⟨node.path, accepted⟩

/-- The automations that a value stands for: the value itself or its items if these have actions, else
    the mapping with the value as its actions. There is at least one. -/
theorem automation_gives (accepted : automation check node = .ok result) :
    ∃ values, result = .list values ∧ values ≠ [] ∧
      ∀ value ∈ values, ∃ part ∈ .map [("then", node.value)] :: node.value :: node.value.parts,
        isAutomation part = true ∧ check.Gives part value := by
  unfold automation automations? at accepted
  obtain ⟨path, whole⟩ := node
  have wrapped : isAutomation (.map [("then", whole)]) = true := rfl
  cases whole with
  | list items =>
    simp only at accepted
    split at accepted
    · rename_i automations
      obtain ⟨written, each⟩ := Bool.and_eq_true_iff.mp automations
      obtain ⟨values, rfl, length, origin⟩ := each_gives accepted
      refine ⟨values, rfl, ?_, fun value member => ?_⟩
      · rintro rfl
        cases items with
        | nil => cases written
        | cons item rest => simp [Node.items, Node.itemsFrom] at length
      · obtain ⟨item, inside, given⟩ := origin value member
        have held := Node.value_mem_of_mem_items inside
        exact ⟨item.value, List.mem_cons_of_mem _ (List.mem_cons_of_mem _ held),
          List.all_eq_true.mp each _ held, given⟩
    · obtain ⟨values, rfl, length, origin⟩ := each_gives accepted
      refine ⟨values, rfl, List.ne_nil_of_length_pos (by simp [length]), fun value member => ?_⟩
      obtain ⟨item, inside, given⟩ := origin value member
      cases List.mem_singleton.mp inside
      exact ⟨_, List.mem_cons_self .., wrapped, given⟩
  | map entries =>
    simp only at accepted
    obtain ⟨values, rfl, length, origin⟩ := each_gives accepted
    refine ⟨values, rfl, List.ne_nil_of_length_pos ?_, fun value member => ?_⟩
    · rw [length]
      split <;> exact Nat.one_pos
    · obtain ⟨item, inside, given⟩ := origin value member
      split at inside
      · rename_i written
        cases List.mem_singleton.mp inside
        exact ⟨_, List.mem_cons_of_mem _ (List.mem_cons_self ..), written, given⟩
      · cases List.mem_singleton.mp inside
        exact ⟨_, List.mem_cons_self .., wrapped, given⟩
  | _ => cases accepted

end Lists

theorem allOf_withSimpleId {check : Check} {node : Node} {result : Value}
    (accepted : allOf [.ofScalar (Scalar.coerce .simpleId), check] node = .ok result) :
    ∃ before ∈ [node.value, .map [("id", node.value)]], check ⟨node.path, before⟩ = .ok result := by
  have coerced : ∃ before ∈ [node.value, .map [("id", node.value)]],
      Scalar.coerce .simpleId node.value = .ok before := by
    obtain ⟨path, value⟩ := node
    cases value with
    | map entries => exact ⟨_, List.mem_cons_self .., rfl⟩
    | _ => exact ⟨_, List.mem_cons_of_mem _ (List.mem_singleton_self _), rfl⟩
  obtain ⟨before, inside, same⟩ := coerced
  refine ⟨before, inside, ?_⟩
  have first : ofScalar (Scalar.coerce .simpleId) node = .ok before := ofScalar_eq_ok_iff.mpr same
  simp only [allOf, first] at accepted
  cases given : check ⟨node.path, before⟩ with
  | ok value =>
    rw [given] at accepted
    exact accepted
  | error problems =>
    rw [given] at accepted
    cases accepted

theorem singleKey_gives {kind : String} {choices : List (String × Check)} {node : Node} {result : Value}
    (accepted : singleKey kind choices node = .ok result) :
    ∃ key value inner check, node.value = .map [(key, value)] ∧ find? key choices = some check ∧
      check.Gives value inner ∧ result = .map [(key, inner)] := by
  unfold singleKey at accepted
  split at accepted
  · cases accepted
  · rename_i key value same
    simp only at accepted
    split at accepted
    · cases accepted
    · rename_i check found
      split at accepted
      · rename_i inner given
        cases accepted
        exact ⟨key, value, inner, check, same, found, ⟨_, given⟩, rfl⟩
      · cases accepted
  · cases accepted
  · cases accepted

theorem dispatch_gives {key : String} {choices : List (String × Check)} {node : Node} {result : Value}
    (accepted : dispatch key choices node = .ok result) :
    ∃ entries selector check, node.value = .map entries ∧ Entries.get? key entries = some selector ∧
      find? (selector.scalarText?.getD "") choices = some check ∧ check node = .ok result := by
  unfold dispatch at accepted
  split at accepted
  · rename_i entries same
    split at accepted
    · cases accepted
    · rename_i selector present
      simp only at accepted
      split at accepted
      · rename_i check found
        exact ⟨entries, selector, check, same, present, found, accepted⟩
      · cases accepted
  · cases accepted

end Check

end DeviceConfig
