import DeviceConfig.Proofs.Identifiers.Fresh
import DeviceConfig.Proofs.Lists

/-!
The problems with the identifiers of a document, one for each that is at fault (`Node.concerns_problems`). If
there are none, users declare no name twice and refer to names that they declared, for objects of fitting
types (`Node.problems_eq_nil_iff`).
-/

namespace DeviceConfig

namespace Placed

variable {declared before seen : List Placed} {name : String}

theorem find?_eq_none_iff : find? name declared = none ↔ name ∉ declared.map (·.id.name) :=
  find?_key_eq_none_iff

theorem find?_eq_some_iff (differ : (declared.map (·.id.name)).Nodup) {p : Placed} :
    find? name declared = some p ↔ p ∈ declared ∧ p.id.name = name := find?_key_eq_some_iff differ

theorem find?_append (before later : List Placed) :
    find? name (before ++ later) = (find? name before).or (find? name later) := List.find?_append

/-- A declaration that repeats a name is not the one that the name leads to. -/
theorem find?_repeated {p first : Placed} (known : find? p.id.name before = some first) :
    find? name (before ++ [p]) = find? name before := by
  rw [find?_append]
  by_cases same : p.id.name = name
  · rw [← same, known]
    rfl
  · have other : find? name [p] = none := by simp [find?, same]
    rw [other, Option.or_none]

theorem find?_foldl (seen : List Placed) :
    find? name (declared.foldl (fun seen p =>
      if seen.any (·.id.name == p.id.name) then seen else seen ++ [p]) seen) = find? name (seen ++ declared) := by
  induction declared generalizing seen with
  | nil => rw [List.foldl_nil, List.append_nil]
  | cons p rest ih =>
    have parts : seen ++ p :: rest = (seen ++ [p]) ++ rest := by simp
    rw [List.foldl_cons, ih, parts, find?_append, find?_append (seen ++ [p])]
    split
    · rename_i known
      obtain ⟨first, found⟩ := Option.isSome_iff_exists.mp (List.find?_isSome.mpr (List.any_eq_true.mp known))
      rw [find?_repeated found]
    · rfl

theorem find?_firsts (declared : List Placed) : find? name (firsts declared) = find? name declared :=
  find?_foldl []

/-- Of the declarations, those that repeat the name of an earlier one. -/
def repeated (before : List Placed) : List Placed → List Placed
  | [] => []
  | p :: rest =>
    if p.id.name ∈ before.map (·.id.name) then p :: repeated (before ++ [p]) rest
    else repeated (before ++ [p]) rest

/-- The name leads to an object of a fitting type. Of several declarations, it leads to the first. -/
def fits (declared : List Placed) (use : Placed) : Bool :=
  (find? use.id.name declared).any fun first => first.id.type.descendsFrom use.id.type

/-- The problem is with this identifier, and says what is wrong with it. -/
inductive Concerns (declared : List Placed) : Problem → Placed → Prop where
  | redefined {p first : Placed} : p.id.role = .declared → find? p.id.name declared = some first →
    Concerns declared (.of p.path (.redefinedId p.id.name first.path)) p
  | undeclared {use : Placed} : use.id.role = .used → find? use.id.name declared = none →
    Concerns declared (.of use.path (.undeclaredId use.id.name ((firsts declared).map (·.id.name)))) use
  | wrongType {use first : Placed} : use.id.role = .used → find? use.id.name declared = some first →
    first.id.type.descendsFrom use.id.type = false →
    Concerns declared (.of use.path (.wrongIdType use.id.name first.id.type.text use.id.type.text)) use

theorem concerns_redefinitions (own : ∀ p ∈ declared, p.id.role = .declared)
    (same : ∀ name, find? name seen = find? name before) :
    List.Forall₂ (Concerns (before ++ declared)) (redefinitions seen declared) (repeated before declared) := by
  induction declared generalizing seen before with
  | nil => exact .nil
  | cons p rest ih =>
    have others := fun q member => own q (List.mem_cons_of_mem p member)
    have parts : before ++ p :: rest = (before ++ [p]) ++ rest := by simp
    rw [redefinitions, repeated]
    cases found : find? p.id.name seen with
    | some first =>
      have known := (same p.id.name).symm.trans found
      have inside : p.id.name ∈ before.map (·.id.name) := by
        by_contra absent
        cases known.symm.trans (find?_eq_none_iff.mpr absent)
      rw [if_pos inside]
      refine .cons (.redefined (own p (List.mem_cons_self ..)) ?_) ?_
      · rw [find?_append, known]
        rfl
      · rw [parts]
        exact ih others fun name => (same name).trans (find?_repeated known).symm
    | none =>
      have free := find?_eq_none_iff.mp ((same p.id.name).symm.trans found)
      rw [if_neg free, parts]
      refine ih others fun name => ?_
      rw [find?_append, find?_append, same]

theorem concerns_checkUse {uses : List Placed} (own : ∀ use ∈ uses, use.id.role = .used) :
    List.Forall₂ (Concerns declared) (uses.filterMap (checkUse (firsts declared)))
      (uses.filter fun use => !fits declared use) := by
  induction uses with
  | nil => exact .nil
  | cons use rest ih =>
    have used := own use (List.mem_cons_self ..)
    have others := ih fun other member => own other (List.mem_cons_of_mem use member)
    rw [List.filterMap_cons, List.filter_cons, checkUse, find?_firsts, fits]
    cases found : find? use.id.name declared with
    | none => exact .cons (.undeclared used found) others
    | some first =>
      cases descends : first.id.type.descendsFrom use.id.type with
      | true => simpa [descends] using others
      | false => simpa [descends] using List.Forall₂.cons (.wrongType used found descends) others

theorem repeated_eq_nil_iff (differ : (before.map (·.id.name)).Nodup) :
    repeated before declared = [] ↔ ((before ++ declared).map (·.id.name)).Nodup := by
  induction declared generalizing before with
  | nil => simp [repeated, differ]
  | cons p rest ih =>
    rw [repeated]
    split
    · rename_i known
      refine ⟨fun none => (nomatch none), fun all => ?_⟩
      rw [List.map_append, List.map_cons, List.nodup_middle] at all
      exact absurd (List.mem_append_left _ known) (List.nodup_cons.mp all).1
    · rename_i free
      have parts : before ++ p :: rest = (before ++ [p]) ++ rest := by simp
      rw [parts]
      apply ih
      rw [List.map_append, List.map_singleton, List.nodup_middle, List.append_nil]
      exact List.nodup_cons.mpr ⟨free, differ⟩

theorem fits_iff (differ : (declared.map (·.id.name)).Nodup) {use : Placed} :
    fits declared use = true ↔
      ∃ p ∈ declared, p.id.name = use.id.name ∧ p.id.type.descendsFrom use.id.type = true := by
  simp only [fits, Option.any_eq_true, find?_eq_some_iff differ, and_assoc]

end Placed

theorem Node.identifiersOf_perm (node : Node) (role : IdRole) :
    ((node.identifiersOf role).map (·.id)).Perm (node.value.ids.filter (·.role = role)) := by
  have whole := (node.value.ids_perm_identifiers node.path).filter (·.role = role)
  rw [List.filter_map] at whole
  exact whole

theorem Node.declaredNames_perm (node : Node) :
    ((node.identifiersOf .declared).map (·.id.name)).Perm node.value.declaredNames := by
  have names := (node.identifiersOf_perm .declared).map (·.name)
  rw [List.map_map] at names
  exact names

theorem Node.mem_ids_iff (node : Node) {role : IdRole} {id : ObjectId} :
    id ∈ node.value.ids ∧ id.role = role ↔ ∃ p ∈ node.identifiersOf role, p.id = id := by
  rw [← List.mem_map, (node.identifiersOf_perm role).mem_iff, List.mem_filter, decide_eq_true_eq]

theorem Node.role_of_mem_identifiersOf {node : Node} {role : IdRole} :
    ∀ p ∈ node.identifiersOf role, p.id.role = role :=
  fun _ member => of_decide_eq_true (List.mem_filter.mp member).2

/-- There is a problem for each declaration that repeats a name and for each use that does not fit, and there
    are no others. -/
theorem Node.concerns_problems (node : Node) :
    List.Forall₂ (Placed.Concerns (node.identifiersOf .declared)) node.resolveIdentifiers.1
      (Placed.repeated [] (node.identifiersOf .declared) ++
        (node.identifiersOf .used).filter fun use => !Placed.fits (node.identifiersOf .declared) use) := by
  rw [resolveIdentifiers_eq]
  have redefined := @Placed.concerns_redefinitions (node.identifiersOf .declared) [] []
    role_of_mem_identifiersOf fun _ => rfl
  exact List.rel_append redefined (Placed.concerns_checkUse role_of_mem_identifiersOf)

theorem Node.problems_eq_nil_iff (node : Node) :
    node.resolveIdentifiers.1 = [] ↔ node.value.declaredNames.Nodup ∧
      ∀ use ∈ node.value.ids, use.role = .used → ∃ id ∈ node.value.ids,
        id.role = .declared ∧ id.name = use.name ∧ id.type.descendsFrom use.type = true := by
  have blamed : node.resolveIdentifiers.1 = [] ↔ Placed.repeated [] (node.identifiersOf .declared) ++
      (node.identifiersOf .used).filter (fun use => !Placed.fits (node.identifiersOf .declared) use) = [] := by
    rw [← List.length_eq_zero_iff, node.concerns_problems.length_eq, List.length_eq_zero_iff]
  have once := @Placed.repeated_eq_nil_iff (node.identifiersOf .declared) [] List.nodup_nil
  rw [blamed, List.append_eq_nil_iff, once, List.nil_append, ← node.declaredNames_perm.nodup_iff]
  refine and_congr_right fun differ => ?_
  simp only [List.filter_eq_nil_iff, Bool.not_eq_true', Bool.not_eq_false, Placed.fits_iff differ]
  constructor
  · intro fit use member used
    obtain ⟨q, inside, rfl⟩ := node.mem_ids_iff.mp ⟨member, used⟩
    obtain ⟨p, declared, same, descends⟩ := fit q inside
    obtain ⟨held, own⟩ := node.mem_ids_iff.mpr ⟨p, declared, rfl⟩
    exact ⟨p.id, held, own, same, descends⟩
  · intro fit q inside
    obtain ⟨held, used⟩ := node.mem_ids_iff.mpr ⟨q, inside, rfl⟩
    obtain ⟨id, member, own, same, descends⟩ := fit q.id held used
    obtain ⟨p, declared, rfl⟩ := node.mem_ids_iff.mp ⟨member, own⟩
    exact ⟨p, declared, same, descends⟩

/-- Without problems, the names that users declare differ and include those that they refer to. -/
theorem Node.names_of_resolveIdentifiers {node result : Node} (resolved : node.resolveIdentifiers = ([], result)) :
    node.value.declaredNames.Nodup ∧
      ∀ id ∈ node.value.ids, id.role = .used → id.name ∈ node.value.declaredNames := by
  obtain ⟨differ, fit⟩ := node.problems_eq_nil_iff.mp (congrArg Prod.fst resolved)
  refine ⟨differ, fun use member used => ?_⟩
  obtain ⟨id, inside, declared, same, -⟩ := fit use member used
  rw [← same]
  exact List.mem_map_of_mem (List.mem_filter.mpr ⟨inside, decide_eq_true declared⟩)

theorem Placed.mem_firsts {declared : List Placed} {name : String} :
    name ∈ (firsts declared).map (·.id.name) ↔ name ∈ declared.map (·.id.name) := by
  rw [← not_iff_not, ← find?_eq_none_iff, ← find?_eq_none_iff, find?_firsts]

theorem Node.takes_named (node : Node) : ∃ after, Takes
    ((Placed.firsts (node.identifiersOf .declared)).map (·.id.name)) after (generatedNames node.named.value.ids) :=
  ⟨_, node.value.takes_nameGenerated _⟩

theorem Node.mem_firsts_iff (node : Node) {name : String} :
    name ∈ (Placed.firsts (node.identifiersOf .declared)).map (·.id.name) ↔
      name ∈ node.named.value.declaredNames := by
  rw [Placed.mem_firsts, ← node.named.declaredNames_perm.mem_iff, node.identifiersOf_named (by decide)]

theorem Node.mem_declaredNames_named (node : Node) {name : String} (member : name ∈ node.named.value.declaredNames) :
    name ∈ (Placed.firsts (node.identifiersOf .declared)).map (·.id.name) :=
  node.mem_firsts_iff.mpr member

/-- A name that is made up is the first free one among names that are all declared or made up. -/
theorem Node.exists_fresh_named (node : Node) {id : ObjectId} (member : id ∈ node.named.value.ids)
    (made : id.role = .generated) : ∃ earlier, id.name = Cpp.fresh id.type.nameHint earlier ∧
      ∀ name ∈ earlier, name ∈ node.named.value.declaredNames ∨ name ∈ generatedNames node.named.value.ids := by
  let users := (Placed.firsts (node.identifiersOf .declared)).map (·.id.name)
  have takes := node.value.takes_nameGenerated users
  obtain ⟨earlier, same, inside⟩ := (isClosed_fills.nameGenerated node.value users).each id member made
  refine ⟨earlier, same, fun name held => ?_⟩
  rcases List.mem_append.mp (takes.perm.mem_iff.mp (inside name held)) with made | user
  · exact .inr made
  · exact .inl (node.mem_firsts_iff.mp user)

/-- There is no problem if users declare no name twice and refer to objects of fitting types only, and one for
    each declaration and each use of which this is not so. The names that are made up differ from each other
    and from those that users declare. Nothing else changes, and nothing at all the next time. -/
theorem Node.resolveIdentifiers_complete (node : Node) :
    ∃ problems result, node.resolveIdentifiers = (problems, result) ∧
      (node.identifiers.map (·.id)).Perm node.value.ids ∧
      (problems = [] ↔ node.value.declaredNames.Nodup ∧
        ∀ use ∈ node.value.ids, use.role = .used → ∃ id ∈ node.value.ids,
          id.role = .declared ∧ id.name = use.name ∧ id.type.descendsFrom use.type = true) ∧
      List.Forall₂ (Placed.Concerns (node.identifiersOf .declared)) problems
        (Placed.repeated [] (node.identifiersOf .declared) ++
          (node.identifiersOf .used).filter fun use => !Placed.fits (node.identifiersOf .declared) use) ∧
      (generatedNames result.value.ids).Nodup ∧
      (∀ name ∈ generatedNames result.value.ids, name ∉ result.value.declaredNames) ∧
      result.path = node.path ∧ result.value.unnamed = node.value.unnamed ∧
      result.resolveIdentifiers = (problems, result) := by
  obtain ⟨after, takes⟩ := node.takes_named
  refine ⟨node.resolveIdentifiers.1, node.named, rfl, node.value.ids_perm_identifiers node.path,
    node.problems_eq_nil_iff, node.concerns_problems, takes.differ, fun name made declared => ?_, rfl,
    node.renames_named.unnamed_eq, node.resolveIdentifiers_named⟩
  exact takes.free name made (node.mem_declaredNames_named declared)

end DeviceConfig
