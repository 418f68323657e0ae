import DeviceConfig.Core.Schema
import DeviceConfig.Proofs.Schema.NormalForm
import DeviceConfig.Proofs.Schema.Parts

/-!
What a failed check complains about. Each combinator hands on the problems of the checks inside it, at the places
of the parts that they saw, so a check that fails has problems and all of them stand at or below the value
(`Check.Locates`). With that of the causes of a problem, at any depth: `Schema.problems_located`.
-/

namespace DeviceConfig

namespace Problem

/-- The problem stands at or below the place, and so do its causes with respect to the problem. -/
inductive IsWithin : Path → Problem → Prop where
  | mk {outer path : Path} {complaint : Complaint} {causes : List Problem} : path.Extends outer →
    (∀ cause ∈ causes, IsWithin path cause) → IsWithin outer (mk path complaint causes)

variable {inner outer : Path}

theorem isWithin_of (below : inner.Extends outer) (complaint : Complaint) :
    (Problem.of inner complaint).IsWithin outer := .mk below fun _ member => nomatch member

theorem IsWithin.mono {problem : Problem} (within : problem.IsWithin inner) (below : inner.Extends outer) :
    problem.IsWithin outer := by
  cases within with
  | mk deeper causes => exact .mk (deeper.trans below) causes

/-- What is folded at a place below stays below, whether the problem stands for itself or becomes a cause. -/
theorem isWithin_fold {problems : List Problem} (each : ∀ problem ∈ problems, problem.IsWithin inner)
    (below : inner.Extends outer) : (fold inner problems).IsWithin outer := by
  unfold fold
  split
  · exact (each _ (List.mem_singleton_self _)).mono below
  · exact .mk below each

/-- The problem stands at or below the place, and its direct causes at or below the problem. -/
def Stands (outer : Path) (problem : Problem) : Prop :=
  problem.path.Extends outer ∧ ∀ cause ∈ problem.causes, cause.path.Extends problem.path

theorem IsWithin.stands {problem : Problem} (within : problem.IsWithin outer) : problem.Stands outer := by
  cases within with
  | mk below causes =>
    refine ⟨below, fun cause member => ?_⟩
    cases causes cause member with
    | mk deeper _ => exact deeper

mutual

theorem IsWithin.stands_flatten {outer : Path} : ∀ {problem : Problem}, problem.IsWithin outer →
    ∀ found ∈ problem.flatten, found.Stands outer
  | .mk path complaint causes, within, found, member => by
    rw [flatten] at member
    rcases List.mem_cons.mp member with rfl | deeper
    · exact within.stands
    · cases within with
      | mk below each =>
        have stands := stands_flattenAll each found deeper
        exact ⟨stands.1.trans below, stands.2⟩

theorem stands_flattenAll {outer : Path} : ∀ {problems : List Problem},
    (∀ problem ∈ problems, problem.IsWithin outer) → ∀ found ∈ flattenAll problems, found.Stands outer
  | [], _, _, member => nomatch member
  | problem :: rest, each, found, member => by
    rw [flattenAll] at member
    obtain ⟨here, others⟩ := List.forall_mem_cons.mp each
    rcases List.mem_append.mp member with first | later
    · exact here.stands_flatten found first
    · exact stands_flattenAll others found later

end

end Problem

/-- There are problems, and all of them stand at or below the place. -/
def AreWithin (outer : Path) (problems : List Problem) : Prop :=
  problems ≠ [] ∧ ∀ problem ∈ problems, problem.IsWithin outer

theorem areWithin_single {outer : Path} {problem : Problem} (within : problem.IsWithin outer) :
    AreWithin outer [problem] :=
  ⟨List.cons_ne_nil _ _, fun _ member => List.mem_singleton.mp member ▸ within⟩

theorem areWithin_of {inner outer : Path} (below : inner.Extends outer) (complaint : Complaint) :
    AreWithin outer [.of inner complaint] := areWithin_single (Problem.isWithin_of below complaint)

theorem AreWithin.fold {inner outer : Path} {problems : List Problem} (within : AreWithin inner problems)
    (below : inner.Extends outer) : (Problem.fold inner problems).IsWithin outer :=
  Problem.isWithin_fold within.2 below

namespace Check

/-- Where the check fails, it has problems at or below the value. -/
def Locates (check : Check) : Prop :=
  ∀ node problems, check node = .error problems → AreWithin node.path problems

variable {check : Check}

theorem locates_ofScalar (read : Value → Scalar.Read) : (ofScalar read).Locates := by
  intro node problems failed
  unfold ofScalar at failed
  split at failed <;> cases failed
  exact areWithin_of (.refl _) _

theorem Locates.templatable (locates : check.Locates) : (templatable check).Locates := by
  intro node problems failed
  unfold Check.templatable at failed
  split at failed
  · cases failed
  · exact locates node problems failed

section Lists

variable {nodes : List Node} {outer : Path}

theorem Locates.gather (locates : check.Locates) (below : ∀ node ∈ nodes, node.path.Extends outer) :
    ∀ problem ∈ (gather check nodes).1, problem.IsWithin outer := by
  induction nodes with
  | nil => exact List.forall_mem_nil _
  | cons node rest ih =>
    obtain ⟨here, others⟩ := List.forall_mem_cons.mp below
    rw [Check.gather]
    cases failed : check node with
    | ok value => exact ih others
    | error found => exact List.forall_mem_cons.mpr ⟨(locates node found failed).fold here, ih others⟩

theorem Locates.each (locates : check.Locates) (below : ∀ node ∈ nodes, node.path.Extends outer)
    {problems : List Problem} (failed : each check nodes = .error problems) : AreWithin outer problems := by
  have within := locates.gather below
  unfold Check.each at failed
  rcases found : Check.gather check nodes with ⟨gathered, values⟩
  rw [found] at failed within
  cases gathered with
  | nil => cases failed
  | cons problem rest =>
    cases failed
    exact ⟨List.cons_ne_nil _ _, within⟩

theorem itemsFrom_below {path : Path} {first : Nat} {values : List Value} :
    ∀ node ∈ Node.itemsFrom path first values, node.path.Extends path := by
  induction values generalizing first with
  | nil => exact List.forall_mem_nil _
  | cons value rest ih => exact List.forall_mem_cons.mpr ⟨Path.index_extends path first, ih⟩

theorem items_below (node : Node) : ∀ item ∈ node.items, item.path.Extends node.path := by
  obtain ⟨path, value⟩ := node
  cases value with
  | list values => exact itemsFrom_below
  | _ => exact List.forall_mem_nil _

theorem Locates.oneOrMany (locates : check.Locates) : (oneOrMany check).Locates := by
  intro node problems failed
  unfold Check.oneOrMany items at failed
  split at failed
  · exact locates.each (items_below node) failed
  · cases failed
  · have below := items_below ⟨node.path, .list [node.value]⟩
    exact locates.each below failed

theorem Locates.listOf (locates : check.Locates) : (listOf check).Locates := by
  intro node problems failed
  unfold Check.listOf items at failed
  split at failed
  · exact locates.each (items_below node) failed
  · cases failed
    exact areWithin_of (.refl _) _

/-- A value that is taken for one automation stands at its own place or as the first of a list there. -/
theorem automations_below {node : Node} {nodes : List Node} (taken : automations? node = some nodes) :
    ∀ item ∈ nodes, item.path.Extends node.path := by
  obtain ⟨path, value⟩ := node
  have own (whole : Value) : ∀ item ∈ [Node.mk path whole], item.path.Extends path :=
    fun item member => List.mem_singleton.mp member ▸ .refl path
  unfold automations? at taken
  cases value with
  | list values =>
    cases taken
    split
    · exact itemsFrom_below
    · exact own _
  | map entries =>
    cases taken
    split
    · intro item member
      rw [List.mem_singleton.mp member]
      exact Path.index_extends path 0
    · exact own _
  | _ => cases taken

theorem Locates.automation (locates : check.Locates) : (automation check).Locates := by
  intro node problems failed
  unfold Check.automation at failed
  split at failed
  · rename_i nodes taken
    exact locates.each (automations_below taken) failed
  · cases failed
    exact areWithin_of (.refl _) _

end Lists

theorem locates_allOf {checks : List Check} (each : ∀ check ∈ checks, check.Locates) : (allOf checks).Locates := by
  induction checks with
  | nil => exact fun _ _ failed => nomatch failed
  | cons step rest ih =>
    obtain ⟨here, others⟩ := List.forall_mem_cons.mp each
    intro node problems failed
    unfold allOf at failed
    split at failed
    · rename_i value _
      exact ih others ⟨node.path, value⟩ problems failed
    · rename_i found stepFailed
      cases failed
      exact here node _ stepFailed

/-- If no option accepts, the problems are those of the first. -/
theorem locates_anyOf {checks : List Check} (each : ∀ check ∈ checks, check.Locates) : (anyOf checks).Locates := by
  intro node problems failed
  cases checks with
  | nil =>
    cases failed
    exact areWithin_of (.refl _) _
  | cons option rest =>
    cases first : option node with
    | ok value =>
      simp only [anyOf, first] at failed
      cases failed
    | error found =>
      simp only [anyOf, first] at failed
      split at failed <;> cases failed
      exact each option List.mem_cons_self node _ first

theorem locates_dispatch {key : String} {choices : List (String × Check)}
    (each : ∀ choice ∈ choices, choice.2.Locates) : (dispatch key choices).Locates := by
  intro node problems failed
  unfold dispatch at failed
  split at failed
  · split at failed
    · cases failed
      exact areWithin_of (Path.key_extends _ _) _
    · simp only at failed
      split at failed
      · rename_i check found
        exact each _ (Entries.mem_of_get? found) node problems failed
      · cases failed
        exact areWithin_of (Path.key_extends _ _) _
  · cases failed
    exact areWithin_of (.refl _) _

theorem locates_singleKey {kind : String} {choices : List (String × Check)}
    (each : ∀ choice ∈ choices, choice.2.Locates) : (singleKey kind choices).Locates := by
  intro node problems failed
  unfold singleKey at failed
  split at failed
  · cases failed
    exact areWithin_of (.refl _) _
  · rename_i key value _
    have below : (node.path.key key).Extends node.path := Path.key_extends _ _
    simp only at failed
    split at failed
    · cases failed
      exact areWithin_of below _
    · rename_i check found
      split at failed <;> cases failed
      rename_i problems inner
      exact areWithin_single ((each _ (Entries.mem_of_get? found) _ problems inner).fold below)
  · cases failed
    exact areWithin_of (.refl _) _
  · cases failed
    exact areWithin_of (.refl _) _

end Check

namespace FieldSet

variable {set : FieldSet Check} {path : Path} {entries : Entries Value}

theorem Outcome.mem_problems_all {outcomes : List Outcome} {problem : Problem} :
    problem ∈ (all outcomes).problems ↔ ∃ outcome ∈ outcomes, problem ∈ outcome.problems := by
  induction outcomes with
  | nil => simp [all, none]
  | cons first rest ih =>
    rw [all, append, List.mem_append, ih]
    simp only [List.mem_cons, exists_eq_or_imp]

theorem isWithin_checkGroup (group : List String) :
    ∀ problem ∈ (checkGroup path entries group).problems, problem.IsWithin path := by
  unfold checkGroup
  simp only
  split
  · intro problem member
    rw [List.mem_singleton.mp member]
    exact Problem.isWithin_of (.refl path) _
  · exact List.forall_mem_nil _

theorem isWithin_ofChecked {check : Check} (locates : check.Locates) (key : String) (value : Value) :
    ∀ problem ∈ (Outcome.ofChecked key (path.key key) (check ⟨path.key key, value⟩)).problems,
      problem.IsWithin path := by
  cases failed : check ⟨path.key key, value⟩ with
  | ok result => exact List.forall_mem_nil _
  | error found =>
    intro problem member
    rw [List.mem_singleton.mp member]
    exact (locates _ found failed).fold (Path.key_extends path key)

theorem isWithin_checkEntry (each : ∀ field ∈ set.fields, field.expected.Locates) (key : String) (value : Value) :
    ∀ problem ∈ (checkEntry set path key value).problems, problem.IsWithin path := by
  unfold checkEntry
  split
  · rename_i field found
    exact isWithin_ofChecked (each field (find?_mem found).1) key value
  · split
    · exact List.forall_mem_nil _
    · intro problem member
      rw [List.mem_singleton.mp member]
      exact Problem.isWithin_of (Path.key_extends path key) _

theorem isWithin_fillField {field : Field Check} (locates : field.expected.Locates) :
    ∀ problem ∈ (fillField path field).problems, problem.IsWithin path := by
  unfold fillField
  cases field.presence with
  | required =>
    intro problem member
    rw [List.mem_singleton.mp member]
    exact Problem.isWithin_of (Path.key_extends path field.key) _
  | optional => exact List.forall_mem_nil _
  | default value => exact isWithin_ofChecked locates field.key value
  | generatedId type => exact List.forall_mem_nil _

theorem isWithin_checkEntries (each : ∀ field ∈ set.fields, field.expected.Locates) :
    ∀ problem ∈ (checkEntries set path entries).problems, problem.IsWithin path := by
  intro problem member
  obtain ⟨outcome, inside, held⟩ := Outcome.mem_problems_all.mp member
  simp only [List.mem_append, List.mem_map, List.mem_filter] at inside
  rcases inside with (⟨group, -, rfl⟩ | ⟨entry, -, rfl⟩) | ⟨field, ⟨own, -⟩, rfl⟩
  · exact isWithin_checkGroup group problem held
  · exact isWithin_checkEntry each entry.1 entry.2 problem held
  · exact isWithin_fillField (each field own) problem held

theorem locates_check (each : ∀ field ∈ set.fields, field.expected.Locates) : set.check.Locates := by
  intro node problems failed
  unfold check at failed
  split at failed
  · rename_i entries _
    simp only at failed
    split at failed <;> cases failed
    rename_i some
    exact ⟨fun none => some (List.isEmpty_iff.mpr none), isWithin_checkEntries each⟩
  · cases failed
    exact areWithin_of (.refl _) _

end FieldSet

namespace Schema

variable {rules : Rule → Check}

theorem locates_fields {set : FieldSet Schema} (each : ∀ part ∈ set.expectations, (part.checkWith rules).Locates) :
    (set.toChecks rules).check.Locates := by
  refine FieldSet.locates_check fun field member => ?_
  obtain ⟨own, inside, rfl⟩ := List.mem_map.mp member
  exact each own.expected (FieldSet.expected_mem inside)

theorem locates_checkWith (sound : ∀ rule, (rules rule).Locates) (schema : Schema) :
    (schema.checkWith rules).Locates := by
  induction schema using Schema.induct with
  | step schema each =>
    cases reads : schema.reading? with
    | some read =>
      rw [checkWith_of_reading rules reads]
      exact Check.locates_ofScalar read
    | none =>
      cases schema with
      | any => exact fun _ _ failed => nomatch failed
      | templatable inner => exact (each inner (List.mem_singleton_self _)).templatable
      | oneOrMany inner => exact (each inner (List.mem_singleton_self _)).oneOrMany
      | listOf inner => exact (each inner (List.mem_singleton_self _)).listOf
      | fields set =>
        rw [checkWith_fields]
        exact locates_fields each
      | allOf steps =>
        rw [checkWith, checks_eq]
        exact Check.locates_allOf (List.forall_mem_map.mpr each)
      | anyOf options =>
        rw [checkWith, checks_eq]
        exact Check.locates_anyOf (List.forall_mem_map.mpr each)
      | invalid message =>
        intro node problems failed
        cases failed
        exact areWithin_of (.refl _) _
      | dispatch key choices =>
        rw [checkWith, choiceChecks_eq]
        refine Check.locates_dispatch (List.forall_mem_map.mpr fun choice member => ?_)
        exact locates_fields fun part inside => each part (List.mem_flatMap.mpr ⟨choice, member, inside⟩)
      | singleKey kind entries =>
        rw [checkWith, entryChecks_eq]
        refine Check.locates_singleKey (List.forall_mem_map.mpr fun entry member => ?_)
        exact each entry.2 (List.mem_map_of_mem member)
      | automation set =>
        rw [checkWith_automation]
        exact (locates_fields each).automation
      | recursive rule => exact sound rule
      | _ => cases reads

end Schema

theorem Rule.locates_checkWithin (bound : Nat) (rule : Rule) : (rule.checkWithin bound).Locates := by
  induction bound generalizing rule with
  | zero =>
    intro node problems failed
    cases failed
    exact areWithin_of (.refl _) _
  | succ bound ih => exact Schema.locates_checkWith ih rule.schema

theorem Schema.locates_check (schema : Schema) : schema.check.Locates :=
  locates_checkWith (fun rule node => rule.locates_checkWithin _ node) schema

/-- A check that fails tells what is wrong: it has problems, all problems and all causes of problems stand at or
    below the value that was checked, and no cause stands outside the problem that it is a cause of. -/
theorem Schema.problems_located {schema : Schema} {node : Node} {problems : List Problem}
    (failed : schema.check node = .error problems) :
    problems ≠ [] ∧ ∀ problem ∈ Problem.flattenAll problems,
      problem.path.Extends node.path ∧ ∀ cause ∈ problem.causes, cause.path.Extends problem.path := by
  obtain ⟨some, within⟩ := schema.locates_check node problems failed
  exact ⟨some, Problem.stands_flattenAll within⟩

/-- A section with a bad name, a misspelt key, no board, and two bad actions in one automation. -/
def Core.unfinished : Value := .map [
  ("name", .string "Dev"), ("platform", .string "esp32"), ("bord", .string "d1"),
  ("on_boot", .list [.map [("delay", .int 5)], .map [("lamda", .string "x")]])]

theorem Schema.problems_located_unfinished :
    ∃ problems, Core.sectionSchema.check ⟨Path.root.key "core", Core.unfinished⟩ = .error problems ∧
      (Problem.flattenAll problems).map (·.path.text) =
        ["core.name", "core.bord", "core.on_boot.then", "core.on_boot.then[0].delay",
          "core.on_boot.then[1].lamda", "core.board"] ∧
      problems ≠ [] ∧ ∀ problem ∈ Problem.flattenAll problems,
        problem.path.Extends (Path.root.key "core") ∧
          ∀ cause ∈ problem.causes, cause.path.Extends problem.path :=
  ⟨_, rfl, rfl, @Schema.problems_located Core.sectionSchema ⟨Path.root.key "core", Core.unfinished⟩ _ rfl⟩

end DeviceConfig
