import DeviceConfig.Proofs.Schema.NormalForm
import DeviceConfig.Proofs.Schema.Parts

/-!
What a check makes of a value does not depend on where the value stands (`Schema.ignoresPath_check`): each
combinator hands on the places of parts to the checks inside it, and only complaints are made of them.
-/

namespace DeviceConfig

namespace Check

/-- What the check makes of a value somewhere, it makes of the value everywhere. -/
def IgnoresPath (check : Check) : Prop :=
  ∀ value result, check.Gives value result → ∀ path, check ⟨path, value⟩ = .ok result

variable {check : Check}

theorem IgnoresPath.gives_iff (ignores : check.IgnoresPath) {node : Node} {result : Value} :
    check node = .ok result ↔ check.Gives node.value result :=
  ⟨fun accepted => ⟨node.path, accepted⟩, fun given => ignores _ _ given node.path⟩

theorem IgnoresPath.toOption_eq (ignores : check.IgnoresPath) (value : Value) (path other : Path) :
    (check ⟨path, value⟩).toOption = (check ⟨other, value⟩).toOption := by
  cases here : check ⟨path, value⟩ with
  | ok result => rw [ignores value result ⟨path, here⟩ other]
  | error problems =>
    cases there : check ⟨other, value⟩ with
    | ok result =>
      rw [ignores value result ⟨other, there⟩ path] at here
      cases here
    | error found => rfl

theorem ignoresPath_ofScalar (read : Value → Scalar.Read) : (ofScalar read).IgnoresPath := by
  rintro value result ⟨place, accepted⟩ path
  rw [ofScalar_eq_ok_iff] at accepted ⊢
  exact accepted

theorem IgnoresPath.templatable (ignores : check.IgnoresPath) : (templatable check).IgnoresPath := by
  rintro value result ⟨place, accepted⟩ path
  cases value with
  | lambda code => exact accepted
  | _ => exact ignores _ _ ⟨place, accepted⟩ path

section Lists

variable {nodes others : List Node} {result : Value}

theorem IgnoresPath.each_iff (ignores : check.IgnoresPath) :
    each check nodes = .ok result ↔
      ∃ results, result = .list results ∧ List.Forall₂ check.Gives (nodes.map (·.value)) results := by
  simp only [each_eq_ok_iff, List.forall₂_map_left_iff, ignores.gives_iff]

theorem IgnoresPath.each_congr (ignores : check.IgnoresPath)
    (same : nodes.map (·.value) = others.map (·.value)) :
    each check nodes = .ok result ↔ each check others = .ok result := by
  rw [ignores.each_iff, ignores.each_iff, same]

theorem values_items (path other : Path) (value : Value) :
    (Node.mk path value).items.map (·.value) = (Node.mk other value).items.map (·.value) := by
  cases value with
  | list values => simp only [Node.items, Node.itemsFrom_values]
  | _ => rfl

theorem IgnoresPath.items (ignores : check.IgnoresPath) : (items check).IgnoresPath := by
  rintro value result ⟨place, accepted⟩ path
  exact (ignores.each_congr (values_items place path value)).mp accepted

theorem IgnoresPath.oneOrMany (ignores : check.IgnoresPath) : (oneOrMany check).IgnoresPath := by
  rintro value result ⟨place, accepted⟩ path
  cases value with
  | list values => exact ignores.items _ _ ⟨place, accepted⟩ path
  | null => exact accepted
  | _ => exact ignores.items (.list [_]) _ ⟨place, accepted⟩ path

theorem IgnoresPath.listOf (ignores : check.IgnoresPath) : (listOf check).IgnoresPath := by
  rintro value result ⟨place, accepted⟩ path
  cases value with
  | list values => exact ignores.items _ _ ⟨place, accepted⟩ path
  | _ => cases accepted

/-- The automations that a value stands for have the same values anywhere. -/
theorem values_automations? (path other : Path) (value : Value) :
    (automations? ⟨path, value⟩).map (·.map (·.value)) =
      (automations? ⟨other, value⟩).map (·.map (·.value)) := by
  unfold automations?
  cases value with
  | list values =>
    simp only
    split
    · rw [Option.map_some, Option.map_some, values_items path other]
    · rfl
  | map entries =>
    simp only
    split <;> rfl
  | _ => rfl

theorem IgnoresPath.automation (ignores : check.IgnoresPath) : (automation check).IgnoresPath := by
  rintro value result ⟨place, accepted⟩ path
  have same := values_automations? place path value
  unfold Check.automation at accepted ⊢
  cases here : automations? ⟨place, value⟩ with
  | none =>
    rw [here] at accepted
    cases accepted
  | some nodes =>
    rw [here, Option.map_some, eq_comm, Option.map_eq_some_iff] at same
    obtain ⟨others, there, values⟩ := same
    rw [here] at accepted
    rw [there]
    exact (ignores.each_congr values).mpr accepted

end Lists

theorem ignoresPath_allOf {checks : List Check} (each : ∀ check ∈ checks, check.IgnoresPath) :
    (allOf checks).IgnoresPath := by
  induction checks with
  | nil =>
    rintro value result ⟨place, accepted⟩ path
    exact accepted
  | cons step rest ih =>
    obtain ⟨here, others⟩ := List.forall_mem_cons.mp each
    rintro value result ⟨place, accepted⟩ path
    simp only [allOf] at accepted ⊢
    cases first : step ⟨place, value⟩ with
    | error problems =>
      rw [first] at accepted
      cases accepted
    | ok middle =>
      rw [first] at accepted
      rw [here value middle ⟨place, first⟩ path]
      exact ih others middle result ⟨place, accepted⟩ path

theorem toOption_anyOf (checks : List Check) (node : Node) :
    (anyOf checks node).toOption = checks.findSome? fun check => (check node).toOption := by
  cases checks with
  | nil => rfl
  | cons option rest =>
    simp only [anyOf, List.findSome?_cons]
    generalize rest.findSome? (fun check => (check node).toOption) = later
    cases option node with
    | ok value => rfl
    | error problems => cases later <;> rfl

/-- Where a value stands does not change which of the options accept it. -/
theorem ignoresPath_anyOf {checks : List Check} (each : ∀ check ∈ checks, check.IgnoresPath) :
    (anyOf checks).IgnoresPath := by
  rintro value result ⟨place, accepted⟩ path
  have same : (anyOf checks ⟨path, value⟩).toOption = (anyOf checks ⟨place, value⟩).toOption := by
    rw [toOption_anyOf, toOption_anyOf]
    clear accepted
    induction checks with
    | nil => rfl
    | cons option rest ih =>
      obtain ⟨here, others⟩ := List.forall_mem_cons.mp each
      rw [List.findSome?_cons, List.findSome?_cons, here.toOption_eq value path place, ih others]
  rw [accepted] at same
  cases found : anyOf checks ⟨path, value⟩ with
  | ok other =>
    rw [found] at same
    cases same
    rfl
  | error problems =>
    rw [found] at same
    cases same

theorem ignoresPath_dispatch {key : String} {choices : List (String × Check)}
    (each : ∀ choice ∈ choices, choice.2.IgnoresPath) : (dispatch key choices).IgnoresPath := by
  rintro value result ⟨place, accepted⟩ path
  obtain ⟨entries, selector, check, rfl, present, found, given⟩ := dispatch_gives accepted
  have ignores := each _ (Entries.mem_of_get? found)
  simp only [dispatch, present, found]
  exact ignores _ _ ⟨place, given⟩ path

theorem ignoresPath_singleKey {kind : String} {choices : List (String × Check)}
    (each : ∀ choice ∈ choices, choice.2.IgnoresPath) : (singleKey kind choices).IgnoresPath := by
  rintro value result ⟨place, accepted⟩ path
  obtain ⟨key, part, inner, check, rfl, found, given, rfl⟩ := singleKey_gives accepted
  have ignores := each _ (Entries.mem_of_get? found)
  have accepts : check ⟨path.key key, part⟩ = .ok inner := ignores _ _ given _
  simp only [singleKey, found, accepts]

end Check

namespace FieldSet

variable {set : FieldSet Check}

theorem checkEntry_anywhere (each : ∀ field ∈ set.fields, field.expected.IgnoresPath) {place : Path} (path : Path)
    {before after : String × Value} (kept : checkEntry set place before.1 before.2 = .entry after.1 after.2) :
    checkEntry set path before.1 before.2 = .entry after.1 after.2 := by
  unfold checkEntry at kept ⊢
  cases found : find? before.1 set.fields with
  | some field =>
    simp only [found] at kept ⊢
    obtain ⟨same, given⟩ := Outcome.ofChecked_eq_entry_iff.mp kept
    exact Outcome.ofChecked_eq_entry_iff.mpr ⟨same, each field (find?_mem found).1 _ _ ⟨_, given⟩ _⟩
  | none =>
    simp only [found] at kept ⊢
    split at kept
    · rename_i extra
      rw [← kept, if_pos extra]
    · cases kept

theorem fillField_anywhere {field : Field Check} (ignores : field.expected.IgnoresPath) {place : Path}
    (path : Path) {entry : String × Value} (given : fillField place field = .entry entry.1 entry.2) :
    fillField path field = .entry entry.1 entry.2 := by
  unfold fillField at given ⊢
  cases presence : field.presence with
  | required =>
    rw [presence] at given
    cases given
  | optional =>
    rw [presence] at given
    cases given
  | default value =>
    rw [presence] at given
    obtain ⟨same, accepted⟩ := Outcome.ofChecked_eq_entry_iff.mp given
    exact Outcome.ofChecked_eq_entry_iff.mpr ⟨same, ignores _ _ ⟨_, accepted⟩ _⟩
  | generatedId type =>
    rw [presence] at given
    exact given

theorem ignoresPath_check (each : ∀ field ∈ set.fields, field.expected.IgnoresPath) : set.check.IgnoresPath := by
  rintro value result ⟨place, accepted⟩ path
  cases value with
  | map entries =>
    obtain ⟨groups, kept, added, rfl, keeps, fills⟩ := check_eq_ok_iff.mp accepted
    refine check_eq_ok_iff.mpr ⟨groups, kept, added, rfl, ?_, ?_⟩
    · exact keeps.imp fun before after same => checkEntry_anywhere each path same
    · have inside : ∀ field ∈ set.filled entries, field.expected.IgnoresPath :=
        fun field member => each field (mem_filled.mp member).1
      refine ((List.forall₂_and_left _ _).mpr ⟨inside, fills⟩).imp ?_
      exact fun field entry ⟨ignores, given⟩ => fillField_anywhere ignores path given
  | _ => cases accepted

end FieldSet

namespace Schema

variable {rules : Rule → Check}

theorem ignoresPath_fields {set : FieldSet Schema}
    (each : ∀ part ∈ set.expectations, (part.checkWith rules).IgnoresPath) :
    (set.toChecks rules).check.IgnoresPath := by
  refine FieldSet.ignoresPath_check fun field member => ?_
  obtain ⟨own, inside, rfl⟩ := List.mem_map.mp member
  exact each own.expected (FieldSet.expected_mem inside)

theorem ignoresPath_checkWith (ignore : ∀ rule, (rules rule).IgnoresPath) (schema : Schema) :
    (schema.checkWith rules).IgnoresPath := by
  induction schema using Schema.induct with
  | step schema each =>
    cases reads : schema.reading? with
    | some read =>
      rw [checkWith_of_reading rules reads]
      exact Check.ignoresPath_ofScalar read
    | none =>
      cases schema with
      | any =>
        rintro value result ⟨place, accepted⟩ path
        exact accepted
      | templatable inner => exact (each inner (List.mem_singleton_self _)).templatable
      | oneOrMany inner => exact (each inner (List.mem_singleton_self _)).oneOrMany
      | listOf inner => exact (each inner (List.mem_singleton_self _)).listOf
      | fields set =>
        rw [checkWith_fields]
        exact ignoresPath_fields each
      | allOf steps =>
        rw [checkWith, checks_eq]
        exact Check.ignoresPath_allOf (List.forall_mem_map.mpr each)
      | anyOf options =>
        rw [checkWith, checks_eq]
        exact Check.ignoresPath_anyOf (List.forall_mem_map.mpr each)
      | invalid message =>
        rintro value result ⟨place, accepted⟩ path
        cases accepted
      | dispatch key choices =>
        rw [checkWith, choiceChecks_eq]
        refine Check.ignoresPath_dispatch (List.forall_mem_map.mpr fun choice member => ?_)
        exact ignoresPath_fields fun part inside => each part (List.mem_flatMap.mpr ⟨choice, member, inside⟩)
      | singleKey kind entries =>
        rw [checkWith, entryChecks_eq]
        refine Check.ignoresPath_singleKey (List.forall_mem_map.mpr fun entry member => ?_)
        exact each entry.2 (List.mem_map_of_mem member)
      | automation set =>
        rw [checkWith_automation]
        exact (ignoresPath_fields each).automation
      | recursive rule => exact ignore rule
      | _ => cases reads

end Schema

theorem Rule.ignoresPath_checkWithin (bound : Nat) (rule : Rule) : (rule.checkWithin bound).IgnoresPath := by
  induction bound generalizing rule with
  | zero =>
    rintro value result ⟨place, accepted⟩ path
    cases accepted
  | succ bound ih => exact Schema.ignoresPath_checkWith ih rule.schema

theorem Rule.ignoresPath_check (rule : Rule) : rule.check.IgnoresPath :=
  fun value result ⟨place, accepted⟩ path => rule.ignoresPath_checkWithin _ value result ⟨place, accepted⟩ path

/-- A schema makes the same of a value wherever it stands. -/
theorem Schema.ignoresPath_check (schema : Schema) : schema.check.IgnoresPath :=
  ignoresPath_checkWith Rule.ignoresPath_check schema

end DeviceConfig
