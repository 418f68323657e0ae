import DeviceConfig.Proofs.Program.Unfolding
import DeviceConfig.Program.Order

/-!
The check of the order of bindings. It fails just if a statement involves a local that is first bound by that
statement or a later one (`Symbols.checkOrder_eq_ok_iff`).
-/

namespace DeviceConfig

/-- The names that statements bind, in order. -/
def boundNames (statements : List Cpp.Statement) : List String :=
  statements.filterMap fun statement => statement.bound?.map (·.name)

theorem boundNames_append (before after : List Cpp.Statement) :
    boundNames (before ++ after) = boundNames before ++ boundNames after :=
  List.filterMap_append ..

theorem boundNames_bind (before : List Cpp.Statement) (symbol : Cpp.Symbol) (definition : Cpp.Expr) :
    boundNames (before ++ [.bind symbol definition]) = boundNames before ++ [symbol.name] :=
  boundNames_append ..

/-- The statement at the position binds the name. -/
def BindsAt (statements : List Cpp.Statement) (position : Nat) (name : String) : Prop :=
  ∃ statement symbol, statements[position]? = some statement ∧ statement.bound? = some symbol ∧ symbol.name = name

theorem mem_boundNames_iff {statements : List Cpp.Statement} {name : String} :
    name ∈ boundNames statements ↔ ∃ j, BindsAt statements j name := by
  rw [boundNames, List.mem_filterMap]
  constructor
  · rintro ⟨statement, member, named⟩
    obtain ⟨j, here⟩ := List.mem_iff_getElem?.mp member
    obtain ⟨symbol, bound, same⟩ := Option.map_eq_some_iff.mp named
    exact ⟨j, statement, symbol, here, bound, same⟩
  · rintro ⟨j, statement, symbol, here, bound, same⟩
    exact ⟨statement, List.mem_of_getElem? here, Option.map_eq_some_iff.mpr ⟨symbol, bound, same⟩⟩

theorem boundAt?_eq_some_iff {statements : List Cpp.Statement} (differ : (boundNames statements).Nodup)
    {name : String} {position : Nat} :
    boundAt? statements name = some position ↔ BindsAt statements position name := by
  rw [boundAt?, List.findIdx?_eq_some_iff_getElem]
  constructor
  · rintro ⟨inside, here, -⟩
    obtain ⟨symbol, bound, same⟩ := Option.map_eq_some_iff.mp (beq_iff_eq.mp here)
    exact ⟨_, symbol, List.getElem?_eq_getElem inside, bound, same⟩
  · rintro ⟨statement, symbol, here, bound, same⟩
    obtain ⟨inside, rfl⟩ := List.getElem?_eq_some_iff.mp here
    have binds : statements[position].bound?.map (·.name) = some name := by rw [bound, ← same]; rfl
    refine ⟨inside, by rw [binds]; exact beq_self_eq_true _, fun earlier before already => ?_⟩
    have apart := List.pairwise_iff_getElem.mp (List.pairwise_filterMap.mp differ) earlier position
      (Nat.lt_trans before inside) inside before
    exact apart name (beq_iff_eq.mp already) name binds rfl

namespace Symbols

variable {s : Symbols} {statements : List Cpp.Statement} {position : Nat} {visited : List String}
  {pending rest : List Cpp.Symbol} {symbol : Cpp.Symbol} {name : String}

/-- The name stands for an object in a local of the setup function. -/
def IsLocal (s : Symbols) (name : String) : Prop :=
  ∃ found, s.find? name = some found ∧ found.symbol.binding = .value

theorem IsLocal.not_isInline (isLocal : s.IsLocal name) : ¬s.IsInline name := by
  rintro ⟨_, held, inline⟩
  obtain ⟨_, heldToo, kind⟩ := isLocal
  cases held.symm.trans heldToo
  cases inline.symm.trans kind

/-- The name is a local that is first bound at the position or later. -/
def IsEarly (s : Symbols) (statements : List Cpp.Statement) (position : Nat) (name : String) : Prop :=
  s.IsLocal name ∧ (boundAt? statements name).any (position ≤ ·) = true

theorem isEarly_iff (differ : (boundNames statements).Nodup) :
    s.IsEarly statements position name ↔
      s.IsLocal name ∧ ∃ later, BindsAt statements later name ∧ position ≤ later := by
  simp only [IsEarly, Option.any_eq_true, decide_eq_true_eq, boundAt?_eq_some_iff differ]

theorem Involves.tail (involved : s.Involves rest name) : s.Involves (symbol :: rest) name := by
  obtain ⟨other, member, leads⟩ := involved
  exact ⟨other, List.mem_cons_of_mem _ member, leads⟩

theorem Involves.unfold {found : Declaration} (held : s.find? symbol.name = some found)
    (inline : found.symbol.binding = .inline)
    (involved : s.Involves (((found.definition.map (·.references)).getD []).reverse ++ rest) name) :
    s.Involves (symbol :: rest) name := by
  obtain ⟨other, member, leads⟩ := involved
  rcases List.mem_append.mp member with inner | later
  · cases defined : found.definition with
    | none => simp [defined] at inner
    | some definition =>
      have mentioned : other ∈ definition.references := by simpa [defined] using inner
      have step : s.Unfolds symbol.name other.name :=
        ⟨found, definition, held, inline, defined, List.mem_map_of_mem mentioned⟩
      exact ⟨symbol, List.mem_cons_self .., .head step leads⟩
  · exact ⟨other, List.mem_cons_of_mem _ later, leads⟩

theorem exists_isEarly_of_usedEarly? {early : Declaration}
    (found : s.usedEarly? statements position visited pending = some early) :
    ∃ name, s.Involves pending name ∧ s.IsEarly statements position name := by
  fun_induction s.usedEarly? statements position visited pending with
  | case1 => cases found
  | case2 _ _ _ _ _ ih => exact (ih found).imp fun _ => .imp_left .tail
  | case3 visited symbol rest fresh declaration held kind late =>
    exact ⟨symbol.name, ⟨symbol, List.mem_cons_self .., .refl⟩, ⟨declaration, held, kind⟩, late⟩
  | case4 _ _ _ _ _ _ _ _ ih => exact (ih found).imp fun _ => .imp_left .tail
  | case5 _ _ _ _ _ _ _ ih => exact (ih found).imp fun _ => .imp_left .tail
  | case6 _ _ _ _ _ held inline _ ih => exact (ih found).imp fun _ => .imp_left (.unfold held inline)
  | case7 _ _ _ _ ih => exact (ih found).imp fun _ => .imp_left .tail

/-- What the search keeps: the visited names are on time, what they unfold to is visited or pending, and so is
    the name `start`. -/
structure Explored (s : Symbols) (statements : List Cpp.Statement) (position : Nat) (start : String)
    (visited : List String) (pending : List Cpp.Symbol) : Prop where
  onTime : ∀ name ∈ visited, ¬s.IsEarly statements position name
  closed : ∀ name ∈ visited, ∀ inner, s.Unfolds name inner → inner ∈ visited ∨ inner ∈ pending.map (·.name)
  known : start ∈ visited ∨ start ∈ pending.map (·.name)

namespace Explored

variable {start : String}

theorem skip (explored : s.Explored statements position start visited (symbol :: rest))
    (seen : symbol.name ∈ visited) : s.Explored statements position start visited rest := by
  have kept {name : String} (known : name ∈ visited ∨ name ∈ (symbol :: rest).map (·.name)) :
      name ∈ visited ∨ name ∈ rest.map (·.name) := by
    rcases known with before | later
    · exact .inl before
    · rcases List.mem_cons.mp later with rfl | others
      · exact .inl seen
      · exact .inr others
  exact ⟨explored.onTime, fun name member inner unfolds => kept (explored.closed name member inner unfolds),
    kept explored.known⟩

theorem visit (explored : s.Explored statements position start visited (symbol :: rest))
    (inner : List Cpp.Symbol) (onTime : ¬s.IsEarly statements position symbol.name)
    (all : ∀ name, s.Unfolds symbol.name name → name ∈ inner.map (·.name)) :
    s.Explored statements position start (symbol.name :: visited) (inner ++ rest) := by
  have kept {name : String} (known : name ∈ visited ∨ name ∈ (symbol :: rest).map (·.name)) :
      name ∈ symbol.name :: visited ∨ name ∈ (inner ++ rest).map (·.name) := by
    rw [List.map_append, List.mem_append, List.mem_cons]
    rcases known with before | later
    · exact .inl (.inr before)
    · rcases List.mem_cons.mp later with rfl | others
      · exact .inl (.inl rfl)
      · exact .inr (.inr others)
  refine ⟨fun name member => ?_, fun name member next unfolds => ?_, kept explored.known⟩
  · rcases List.mem_cons.mp member with rfl | before
    · exact onTime
    · exact explored.onTime name before
  · rcases List.mem_cons.mp member with rfl | before
    · rw [List.map_append]
      exact .inr (List.mem_append_left _ (all next unfolds))
    · exact kept (explored.closed name before next unfolds)

theorem not_isEarly_of_done (explored : s.Explored statements position start visited [])
    (leads : Relation.ReflTransGen s.Unfolds start name) : ¬s.IsEarly statements position name := by
  have reached : name ∈ visited := by
    induction leads with
    | refl => exact explored.known.resolve_right List.not_mem_nil
    | tail _ step ih => exact (explored.closed _ ih _ step).resolve_right List.not_mem_nil
  exact explored.onTime name reached

end Explored

theorem not_isEarly_of_kind {found : Declaration} (held : s.find? name = some found)
    (kind : found.symbol.binding ≠ .value) : ¬s.IsEarly statements position name := by
  rintro ⟨⟨_, heldToo, isLocal⟩, -⟩
  cases held.symm.trans heldToo
  exact kind isLocal

theorem not_unfolds_of_kind {found : Declaration} (held : s.find? name = some found)
    (kind : found.symbol.binding ≠ .inline) {inner : String} : ¬s.Unfolds name inner := by
  rintro ⟨_, _, heldToo, inline, -⟩
  cases held.symm.trans heldToo
  exact kind inline

/-- If the search finds nothing, nothing that it has visited or was to visit leads to an early use. -/
theorem Explored.not_isEarly {start : String}
    (explored : s.Explored statements position start visited pending)
    (none : s.usedEarly? statements position visited pending = none)
    (leads : Relation.ReflTransGen s.Unfolds start name) : ¬s.IsEarly statements position name := by
  fun_induction s.usedEarly? statements position visited pending with
  | case1 => exact explored.not_isEarly_of_done leads
  | case2 visited symbol rest fresh absent ih =>
    refine ih (explored.visit [] ?_ ?_) none
    · rintro ⟨⟨_, held, -⟩, -⟩
      cases absent.symm.trans held
    · rintro name ⟨_, _, held, -⟩
      cases absent.symm.trans held
  | case3 => cases none
  | case4 visited symbol rest fresh declaration held kind onTime ih =>
    refine ih (explored.visit [] ?_ fun name unfolds => ?_) none
    · rintro ⟨-, late⟩
      exact onTime late
    · exact absurd unfolds (not_unfolds_of_kind held (by rw [kind]; decide))
  | case5 visited symbol rest fresh declaration held kind ih =>
    refine ih (explored.visit [] ?_ fun name unfolds => ?_) none
    · exact not_isEarly_of_kind held (by rw [kind]; decide)
    · exact absurd unfolds (not_unfolds_of_kind held (by rw [kind]; decide))
  | case6 visited symbol rest fresh declaration held kind inner ih =>
    refine ih (explored.visit inner.reverse ?_ fun name unfolds => ?_) none
    · exact not_isEarly_of_kind held (by rw [kind]; decide)
    · obtain ⟨_, definition, heldToo, -, defined, mentions⟩ := unfolds
      cases held.symm.trans heldToo
      simpa [inner, defined] using mentions
  | case7 visited symbol rest seen ih => exact ih (explored.skip (by simpa using seen)) none

theorem usedEarly?_eq_none_iff :
    s.usedEarly? statements position [] pending = none ↔
      ∀ name, s.Involves pending name → ¬s.IsEarly statements position name := by
  constructor
  · rintro none name ⟨symbol, member, leads⟩
    have explored : s.Explored statements position symbol.name [] pending :=
      ⟨fun _ inside => (nomatch inside), fun _ inside => (nomatch inside), .inr (List.mem_map_of_mem member)⟩
    exact explored.not_isEarly none leads
  · intro onTime
    cases result : s.usedEarly? statements position [] pending with
    | none => rfl
    | some early =>
      obtain ⟨name, involved, isEarly⟩ := exists_isEarly_of_usedEarly? result
      exact absurd isEarly (onTime name involved)

theorem usedEarlyFrom?_eq_none_iff {rest : List Cpp.Statement} :
    s.usedEarlyFrom? statements position rest = none ↔
      ∀ i statement, rest[i]? = some statement → ∀ name, s.Involves statement.references name →
        ¬s.IsEarly statements (position + i) name := by
  induction rest generalizing position with
  | nil => simp [usedEarlyFrom?]
  | cons statement rest ih =>
    have here : s.usedEarly? statements position [] statement.references.reverse = none ↔
        ∀ name, s.Involves statement.references name → ¬s.IsEarly statements position name := by
      simp [usedEarly?_eq_none_iff, Involves]
    have both : s.usedEarlyFrom? statements position (statement :: rest) = none ↔
        s.usedEarly? statements position [] statement.references.reverse = none ∧
          s.usedEarlyFrom? statements (position + 1) rest = none := by
      rw [usedEarlyFrom?]
      cases s.usedEarly? statements position [] statement.references.reverse <;> simp
    rw [both, here, ih]
    constructor
    · rintro ⟨first, others⟩ i other at_i
      cases i with
      | zero =>
        cases at_i
        exact first
      | succ i =>
        have later := others i other at_i
        rwa [Nat.add_assoc, Nat.add_comm 1] at later
    · intro all
      refine ⟨all 0 statement rfl, fun i other at_i => ?_⟩
      have later := all (i + 1) other at_i
      rwa [Nat.add_assoc, Nat.add_comm 1]

theorem checkOrder_eq_ok_iff :
    s.checkOrder statements = .ok () ↔
      ∀ i statement, statements[i]? = some statement → ∀ name, s.Involves statement.references name →
        ¬s.IsEarly statements i name := by
  have none := @usedEarlyFrom?_eq_none_iff s statements 0 statements
  simp only [Nat.zero_add] at none
  rw [← none, checkOrder]
  cases s.usedEarlyFrom? statements 0 statements <;> simp

/-- Where there are no locals, there is nothing to check. -/
theorem checkOrder_eq_ok
    (objects : ∀ name found, s.find? name = some found → found.symbol.binding ≠ .value) :
    s.checkOrder statements = .ok () := by
  rw [checkOrder_eq_ok_iff]
  rintro _ _ _ name _ ⟨⟨found, held, kind⟩, -⟩
  exact objects name found held kind

end Symbols

end DeviceConfig
