import DeviceConfig.Proofs.Schema.FieldSet
import DeviceConfig.Proofs.Value.Entries
import DeviceConfig.Schema.Rule

/-!
The recursive rules have no bound: a rule checks a value as its schema does, whose inner rules are again
without bound (`Rule.check_eq`). What a bounded rule answers does not depend on the bound once that
exceeds twice the depth of the value.
-/

namespace DeviceConfig

section Lists

variable (rules : Rule → Check)

/-- The field with its schema as a check. -/
def Field.toCheck (field : Field Schema) : Field Check :=
  ⟨field.key, field.presence, field.expected.checkWith rules⟩

def FieldSet.toChecks (set : FieldSet Schema) : FieldSet Check :=
  ⟨set.fields.map (Field.toCheck rules), set.exclusive, set.allowsExtra⟩

namespace Schema

theorem checks_eq (schemas : List Schema) : checks rules schemas = schemas.map (checkWith rules) := by
  induction schemas with
  | nil => rfl
  | cons schema rest ih => rw [checks, ih, List.map_cons]

theorem fieldChecks_eq (fields : List (Field Schema)) :
    fieldChecks rules fields = fields.map (Field.toCheck rules) := by
  induction fields with
  | nil => rfl
  | cons field rest ih => rw [fieldChecks, ih, List.map_cons]; rfl

theorem entryChecks_eq (entries : List (String × Schema)) :
    entryChecks rules entries = entries.map fun entry => (entry.1, entry.2.checkWith rules) := by
  induction entries with
  | nil => rfl
  | cons entry rest ih => rw [entryChecks, ih, List.map_cons]

theorem choiceChecks_eq (choices : List (String × FieldSet Schema)) :
    choiceChecks rules choices =
      choices.map fun choice => (choice.1, (choice.2.toChecks rules).check) := by
  induction choices with
  | nil => rfl
  | cons choice rest ih =>
    obtain ⟨key, fields, exclusive, extra⟩ := choice
    rw [choiceChecks, ih, List.map_cons, fieldChecks_eq]
    rfl

theorem find?_entryChecks (key : String) (entries : List (String × Schema)) :
    Check.find? key (entryChecks rules entries) =
      (Entries.get? key entries).map (checkWith rules) := by
  rw [entryChecks_eq]
  exact Entries.get?_map _

theorem find?_choiceChecks (key : String) (choices : List (String × FieldSet Schema)) :
    Check.find? key (choiceChecks rules choices) =
      (Entries.get? key choices).map fun set => (set.toChecks rules).check := by
  rw [choiceChecks_eq]
  exact Entries.get?_map fun set : FieldSet Schema => (set.toChecks rules).check

theorem checkWith_fields (set : FieldSet Schema) :
    (fields set).checkWith rules = (set.toChecks rules).check := by
  obtain ⟨known, exclusive, extra⟩ := set
  rw [checkWith, fieldChecks_eq]
  rfl

theorem checkWith_automation (set : FieldSet Schema) :
    (automation set).checkWith rules = .automation (set.toChecks rules).check := by
  obtain ⟨known, exclusive, extra⟩ := set
  rw [checkWith, fieldChecks_eq]
  rfl

end Schema

theorem FieldSet.find?_toCheck (key : String) (fields : List (Field Schema)) :
    FieldSet.find? key (fields.map (Field.toCheck rules)) =
      (FieldSet.find? key fields).map (Field.toCheck rules) := by
  induction fields with
  | nil => rfl
  | cons field rest ih =>
    rw [List.map_cons, FieldSet.find?, FieldSet.find?, ih]
    by_cases same : field.key = key <;> simp [Field.toCheck, same]

end Lists

section Depth

theorem Value.depth_lt_of_mem_parts {value part : Value} (member : part ∈ value.parts) :
    part.depth < value.depth := by
  cases value with
  | list items =>
    simp only [parts, depth] at member ⊢
    induction items with
    | nil => cases member
    | cons item rest ih =>
      rw [itemsDepth]
      rcases List.mem_cons.mp member with rfl | inRest
      · omega
      · have below := ih inRest
        omega
  | map entries =>
    simp only [parts, depth] at member ⊢
    induction entries with
    | nil => cases member
    | cons entry rest ih =>
      obtain ⟨key, value⟩ := entry
      rw [entriesDepth]
      rcases List.mem_cons.mp member with rfl | inRest
      · omega
      · have below := ih inRest
        omega
  | _ => cases member

end Depth

section Congruence

variable {f g : Check} {node : Node}

theorem Check.each_congr {nodes : List Node} (agree : ∀ node ∈ nodes, f node = g node) :
    each f nodes = each g nodes := by
  have gathered : gather f nodes = gather g nodes := by
    induction nodes with
    | nil => rfl
    | cons node rest ih =>
      rw [gather, gather, agree node (List.mem_cons_self ..),
        ih fun other member => agree other (List.mem_cons_of_mem _ member)]
  rw [each, each, gathered]

theorem Check.oneOrMany_congr
    (agree : ∀ part ∈ node.value :: node.value.parts, ∀ path, f ⟨path, part⟩ = g ⟨path, part⟩) :
    oneOrMany f node = oneOrMany g node := by
  unfold oneOrMany items
  obtain ⟨path, value⟩ := node
  split
  · refine each_congr fun item member => ?_
    rename_i items same
    cases same
    have held := Node.value_mem_of_mem_items member
    exact agree item.value (List.mem_cons_of_mem _ held) item.path
  · rfl
  · refine each_congr fun item member => ?_
    cases List.mem_singleton.mp member
    exact agree _ (List.mem_cons_self ..) _

theorem Check.singleKey_congr {f g : Rule → Check} {kind : String} {entries : List (String × Schema)}
    (agree : ∀ entry ∈ entries, ∀ part ∈ node.value.parts, ∀ path,
      entry.2.checkWith f ⟨path, part⟩ = entry.2.checkWith g ⟨path, part⟩) :
    (Schema.singleKey kind entries).checkWith f node =
      (Schema.singleKey kind entries).checkWith g node := by
  simp only [Schema.checkWith, Schema.entryChecks_eq, singleKey, find?, Entries.keys_map,
    Entries.get?_map]
  obtain ⟨path, value⟩ := node
  split
  · rfl
  · rename_i key value same
    cases same
    cases found : Entries.get? key entries with
    | none => rfl
    | some schema =>
      have here := agree (key, schema) (Entries.mem_of_get? found) value (List.mem_cons_self ..)
      simp only [Option.map_some, here]
  · rfl
  · rfl

theorem FieldSet.check_congr {f g : Rule → Check} {set : FieldSet Schema}
    (noDefault : ∀ field ∈ set.fields, ∀ value, field.presence ≠ .default value)
    (agree : ∀ field ∈ set.fields, ∀ part ∈ node.value.parts, ∀ path,
      field.expected.checkWith f ⟨path, part⟩ = field.expected.checkWith g ⟨path, part⟩) :
    (set.toChecks f).check node = (set.toChecks g).check node := by
  obtain ⟨path, value⟩ := node
  have keys (rules : Rule → Check) : (set.toChecks rules).keys = set.keys := by
    simp only [FieldSet.keys, toChecks, List.map_map]
    rfl
  cases value with
  | map entries =>
    have kept : entries.map (fun entry => checkEntry (set.toChecks f) path entry.1 entry.2) =
        entries.map fun entry => checkEntry (set.toChecks g) path entry.1 entry.2 := by
      refine List.map_congr_left fun entry member => ?_
      simp only [checkEntry, keys]
      simp only [toChecks, find?_toCheck]
      cases found : FieldSet.find? entry.1 set.fields with
      | none => rfl
      | some field =>
        have here := agree field (find?_mem found).1 entry.2 (List.mem_map_of_mem member)
          (path.key entry.1)
        simp only [Option.map_some, Field.toCheck, here]
    have added : ((set.toChecks f).fields.filter fun field => !Entries.contains field.key entries).map
          (fillField path) =
        ((set.toChecks g).fields.filter fun field => !Entries.contains field.key entries).map
          (fillField path) := by
      simp only [toChecks, List.filter_map, List.map_map]
      refine List.map_congr_left fun field member => ?_
      have inside := (List.mem_filter.mp member).1
      simp only [Function.comp_apply, fillField, Field.toCheck]
      cases presence : field.presence with
      | default value => exact absurd presence (noDefault field inside value)
      | _ => rfl
    have same : checkEntries (set.toChecks f) path entries = checkEntries (set.toChecks g) path entries := by
      simp only [checkEntries]
      rw [kept, added]
      rfl
    simp only [check, same]
  | _ => rfl

end Congruence

section Bounds

/-- How far the bound of a rule must exceed twice the depth of the value. -/
def Rule.slack : Rule → Nat
  | .actions => 1
  | _ => 0

theorem fields_ifFields : Schema.ifFields.fields =
    [⟨"condition", .required, Schema.conditions⟩, ⟨"then", .optional, Schema.actions⟩,
      ⟨"else", .optional, Schema.actions⟩] := rfl

variable {f g : Rule → Check} {node : Node}

theorem recursive_list_congr {rule : Rule}
    (agree : ∀ value : Value, value.depth ≤ node.value.depth →
      ∀ path, f rule ⟨path, value⟩ = g rule ⟨path, value⟩) :
    (Schema.oneOrMany (.recursive rule)).checkWith f node =
      (Schema.oneOrMany (.recursive rule)).checkWith g node := by
  refine Check.oneOrMany_congr fun part held path => agree part ?_ path
  rcases List.mem_cons.mp held with rfl | deeper
  · exact Nat.le_refl _
  · exact Nat.le_of_lt (Value.depth_lt_of_mem_parts deeper)

theorem ifFields_congr
    (agree : ∀ rule, rule.slack = 0 → ∀ value : Value, value.depth < node.value.depth →
      ∀ path, f rule ⟨path, value⟩ = g rule ⟨path, value⟩) :
    (Schema.fields Schema.ifFields).checkWith f node =
      (Schema.fields Schema.ifFields).checkWith g node := by
  rw [Schema.checkWith_fields, Schema.checkWith_fields]
  refine FieldSet.check_congr ?_ ?_
  · intro field member value presence
    simp only [fields_ifFields, List.mem_cons, List.not_mem_nil, or_false] at member
    rcases member with rfl | rfl | rfl <;> cases presence
  · intro field member part inside path
    have below := Value.depth_lt_of_mem_parts inside
    have lists (rule : Rule) (known : rule.slack = 0) :
        (Schema.oneOrMany (.recursive rule)).checkWith f ⟨path, part⟩ =
          (Schema.oneOrMany (.recursive rule)).checkWith g ⟨path, part⟩ :=
      recursive_list_congr fun value deeper => agree rule known value (Nat.lt_of_le_of_lt deeper below)
    simp only [fields_ifFields, List.mem_cons, List.not_mem_nil, or_false] at member
    rcases member with rfl | rfl | rfl
    · exact lists .condition rfl
    · exact lists .action rfl
    · exact lists .action rfl

theorem ActionKind.checkWith_schema_congr (kind : ActionKind)
    (agree : ∀ rule, rule.slack = 0 → ∀ value : Value, value.depth < node.value.depth →
      ∀ path, f rule ⟨path, value⟩ = g rule ⟨path, value⟩) :
    kind.schema.checkWith f node = kind.schema.checkWith g node := by
  cases kind with
  | branch => exact ifFields_congr agree
  | _ => rfl

theorem ConditionKind.checkWith_schema_congr (kind : ConditionKind)
    (agree : ∀ value : Value, value.depth ≤ node.value.depth →
      ∀ path, f .condition ⟨path, value⟩ = g .condition ⟨path, value⟩) :
    kind.schema.checkWith f node = kind.schema.checkWith g node := by
  cases kind with
  | every => exact recursive_list_congr agree
  | either => exact recursive_list_congr agree
  | _ => rfl

/-- Beyond twice the depth of the value the bound of a rule does not matter. -/
theorem Rule.checkWithin_eq {n m : Nat} {rule : Rule} {node : Node}
    (enough : 2 * node.value.depth + rule.slack < n) (alsoEnough : 2 * node.value.depth + rule.slack < m) :
    rule.checkWithin n node = rule.checkWithin m node := by
  induction n generalizing m rule node with
  | zero => omega
  | succ n ih =>
    cases m with
    | zero => omega
    | succ m =>
      simp only [checkWithin]
      cases rule with
      | actions =>
        refine recursive_list_congr fun value below path => ?_
        simp only [slack] at enough alsoEnough
        have inner : (⟨path, value⟩ : Node).value.depth ≤ node.value.depth := below
        exact ih (by simp only [slack]; omega) (by simp only [slack]; omega)
      | action =>
        refine Check.singleKey_congr fun entry member part inside path => ?_
        obtain ⟨kind, -, rfl⟩ := List.mem_map.mp member
        have below := Value.depth_lt_of_mem_parts inside
        refine kind.checkWith_schema_congr fun rule known value deeper place => ?_
        have inner : (⟨place, value⟩ : Node).value.depth < part.depth := deeper
        exact ih (by omega) (by omega)
      | condition =>
        refine Check.singleKey_congr fun entry member part inside path => ?_
        obtain ⟨kind, -, rfl⟩ := List.mem_map.mp member
        have below := Value.depth_lt_of_mem_parts inside
        refine kind.checkWith_schema_congr fun value deeper place => ?_
        have inner : value.depth ≤ part.depth := deeper
        exact ih (by simp only [slack]; omega) (by simp only [slack]; omega)

theorem Rule.check_eq (rule : Rule) (node : Node) : rule.check node = rule.schema.check node := by
  have bound : 2 * node.value.depth + rule.slack < 2 * node.value.depth + 2 := by
    cases rule <;> simp only [slack] <;> omega
  have inner : ∀ other : Rule, ∀ value : Value,
      2 * value.depth + other.slack < 2 * node.value.depth + 1 →
      ∀ path, other.checkWithin (2 * node.value.depth + 1) ⟨path, value⟩ = other.check ⟨path, value⟩ := by
    intro other value small path
    refine checkWithin_eq small ?_
    have own : (⟨path, value⟩ : Node).value.depth = value.depth := rfl
    cases other <;> simp only [slack] <;> omega
  rw [Rule.check, checkWithin, Schema.check]
  cases rule with
  | actions =>
    refine recursive_list_congr fun value below path => inner .action value ?_ path
    simp only [slack]
    omega
  | action =>
    refine Check.singleKey_congr fun entry member part inside path => ?_
    obtain ⟨kind, -, rfl⟩ := List.mem_map.mp member
    have below := Value.depth_lt_of_mem_parts inside
    refine kind.checkWith_schema_congr fun rule known value deeper place => inner rule value ?_ place
    have lower : value.depth < part.depth := deeper
    omega
  | condition =>
    refine Check.singleKey_congr fun entry member part inside path => ?_
    obtain ⟨kind, -, rfl⟩ := List.mem_map.mp member
    have below := Value.depth_lt_of_mem_parts inside
    refine kind.checkWith_schema_congr fun value deeper place => inner .condition value ?_ place
    have lower : value.depth ≤ part.depth := deeper
    simp only [slack]
    omega

end Bounds

end DeviceConfig
