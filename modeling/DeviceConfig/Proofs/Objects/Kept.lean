import DeviceConfig.Proofs.Objects.Allotment

/-!
Which objects keep the names that they have in the configuration. All do of which no automation that is not in the
configuration can take the name (`Draft.Allots.keeps_unless`); if one comes before another that is, not all do
(`Draft.Allots.not_all_kept`).
-/

namespace DeviceConfig

/-- Of the objects whose names are made up, the safe ones are called after something that no other object is called
    after. -/
structure Separates (users : List String) (safe : ObjectId → Prop) (origins : List Origin) : Prop where
  settled : ∀ id ∈ configuredIds origins, id.IsSettled users
  differ : ((configuredIds origins).map (·.name)).Nodup
  apart : ∀ origin ∈ origins, origin.id.role = .generated → (∀ id, origin = .configured id → ¬safe id) →
    ∀ id ∈ configuredIds origins, safe id → Cpp.areApart origin.id.type.nameHint id.type.nameHint = true

namespace Separates

variable {users taken : List String} {safe : ObjectId → Prop} {origin : Origin} {origins : List Origin}
  {name : String} {id : ObjectId}

theorem tail (separates : Separates users safe (origin :: origins)) : Separates users safe origins := by
  obtain ⟨settled, differ, apart⟩ := separates
  refine ⟨fun id inside => settled id (mem_configuredIds_cons _ inside), ?_, fun other member made others id inside =>
    apart other (List.mem_cons_of_mem _ member) made others id (mem_configuredIds_cons _ inside)⟩
  cases origin with
  | connection => exact differ
  | configured id => exact (List.nodup_cons.mp differ).2

/-- What comes first either keeps a name of its own or is called after something else. -/
theorem ne_of_chooses (separates : Separates users safe (origin :: origins)) (chooses : origin.Chooses taken name)
    (keeps : ∀ id, origin = .configured id → (id.role = .generated → safe id) → name = id.name)
    (inside : id ∈ configuredIds origins) (made : id.role = .generated) (isSafe : safe id) : id.name ≠ name := by
  have later := mem_configuredIds_cons origin inside
  intro same
  by_cases kept : ∃ own, origin = .configured own ∧ (own.role = .generated → safe own)
  · obtain ⟨own, rfl, safeToo⟩ := kept
    have absent : own.name ∉ (configuredIds origins).map (·.name) := (List.nodup_cons.mp separates.differ).1
    rw [← keeps own rfl safeToo, ← same] at absent
    exact absent (List.mem_map_of_mem inside)
  · have isMade : origin.id.role = .generated := by
      by_contra given
      cases origin with
      | connection => exact given rfl
      | configured own => exact kept ⟨own, rfl, fun made => absurd made given⟩
    have hints := separates.apart origin List.mem_cons_self isMade
      (fun own same isSafe => kept ⟨own, same, fun _ => isSafe⟩) id later isSafe
    have called := chooses.isCalledAfter
      (fun own same => separates.settled own (mem_configuredIds.mpr (same ▸ List.mem_cons_self))) isMade
    exact called.not_of_apart hints (same ▸ (separates.settled id later).called made)

/-- Objects of other types than automations share no names with any. -/
theorem of_type (settled : ∀ id ∈ configuredIds origins, id.IsSettled users)
    (differ : ((configuredIds origins).map (·.name)).Nodup) :
    Separates users (fun id => id.type ≠ Automation.type) origins := by
  refine ⟨settled, differ, fun origin _ _ others id inside other => ?_⟩
  have automation : origin.id.type = Automation.type := by
    cases origin with
    | connection => rfl
    | configured own => exact Decidable.not_not.mp (others own rfl)
  rw [automation]
  exact Cpp.automations_apart id.type (settled id inside).listed other

/-- Without connections, all names that are made up are those of the configuration. -/
theorem of_notMem (settled : ∀ id ∈ configuredIds origins, id.IsSettled users)
    (differ : ((configuredIds origins).map (·.name)).Nodup) (none : .connection ∉ origins) :
    Separates users (fun _ => True) origins := by
  refine ⟨settled, differ, fun origin member _ others => ?_⟩
  cases origin with
  | connection => exact absurd member none
  | configured own => exact absurd trivial (others own rfl)

end Separates

/-- A connection stands before the object of this identifier. -/
def ConnectedBefore (origins : List Origin) (id : ObjectId) : Prop :=
  [.connection, .configured id].Sublist origins

instance (origins : List Origin) (id : ObjectId) : Decidable (ConnectedBefore origins id) :=
  inferInstanceAs (Decidable ([.connection, .configured id].Sublist origins))

/-- Where the connection and the object stand. -/
theorem ConnectedBefore.exists_parts {pairs : List (Origin × Cpp.Symbol)} {id : ObjectId}
    (connected : ConnectedBefore (pairs.map (·.1)) id) : ∃ before first after own,
      pairs = before ++ (.connection, first) :: after ∧ (.configured id, own) ∈ after := by
  obtain ⟨_, _, whole, connection, later⟩ := List.cons_sublist_iff.mp connected
  obtain ⟨start, rest, rfl, rfl, rfl⟩ := List.map_eq_append_iff.mp whole
  obtain ⟨⟨_, first⟩, inStart, rfl⟩ := List.mem_map.mp connection
  obtain ⟨⟨_, own⟩, inRest, rfl⟩ := List.mem_map.mp (List.singleton_sublist.mp later)
  obtain ⟨before, middle, rfl⟩ := List.append_of_mem inStart
  exact ⟨before, first, middle ++ rest, own, List.append_assoc _ _ _, List.mem_append_right _ inRest⟩

namespace Draft.Allots

variable {d next : Draft} {users : List String} {symbol : Cpp.Symbol} {pairs : List (Origin × Cpp.Symbol)}
  {id : ObjectId}

/-- The safe ones among the objects whose names are made up keep these, if they are free at first. -/
theorem keeps {safe : ObjectId → Prop} (allots : Allots pairs d next)
    (separates : Separates users safe (pairs.map (·.1)))
    (free : ∀ id ∈ configuredIds (pairs.map (·.1)), id.role = .generated → safe id → id.name ∉ d.symbols.names)
    {id : ObjectId} (member : (.configured id, symbol) ∈ pairs) (isSafe : id.role = .generated → safe id) :
    symbol.name = id.name := by
  induction allots with
  | nil => cases member
  | @cons origin chosen rest d first second next passes allot _ ih =>
    rw [List.map_cons] at separates free
    have unpassed {id : ObjectId} (inside : id ∈ configuredIds (origin :: rest.map (·.1)))
        (made : id.role = .generated) (isSafe : safe id) : id.name ∉ first.symbols.names := by
      have own := separates.settled id inside
      intro taken
      rcases passes.parts _ taken with before | part
      · exact free id inside made isSafe before
      · exact (own.called made).not_isPartName own.listed part
    have head (id : ObjectId) (same : origin = .configured id) (isSafe : id.role = .generated → safe id) :
        chosen.name = id.name := by
      subst same
      have inside := mem_configuredIds.mpr (List.mem_cons_self (a := Origin.configured id) (l := rest.map (·.1)))
      exact allot.chosen.eq_of_notMem (separates.settled id inside).valid fun made => unpassed inside made (isSafe made)
    rcases List.mem_cons.mp member with same | inRest
    · cases same
      exact head id rfl isSafe
    · refine ih separates.tail (fun other inside made isSafe taken => ?_) inRest
      rcases (allot.taken _).mp taken with same | before
      · exact separates.ne_of_chooses allot.chosen head inside made isSafe same
      · exact unpassed (mem_configuredIds_cons _ inside) made isSafe before

/-- Automations keep names that are made up as long as no connection comes before them, and others in any case. -/
theorem keeps_unless (allots : Allots pairs d next)
    (settled : ∀ id ∈ configuredIds (pairs.map (·.1)), id.IsSettled users)
    (differ : ((configuredIds (pairs.map (·.1))).map (·.name)).Nodup)
    (free : ∀ id ∈ configuredIds (pairs.map (·.1)), id.role = .generated → id.name ∉ d.symbols.names)
    (member : (.configured id, symbol) ∈ pairs)
    (early : id.role = .generated → id.type = Automation.type → ¬ConnectedBefore (pairs.map (·.1)) id) :
    symbol.name = id.name := by
  by_cases connected : id.role = .generated ∧ id.type = Automation.type
  · obtain ⟨made, automation⟩ := connected
    -- what comes after the object has no say in its name
    obtain ⟨before, after, rfl⟩ := List.append_of_mem member
    let upTo : List (Origin × Cpp.Symbol) := before ++ [(.configured id, symbol)]
    have parts : before ++ (.configured id, symbol) :: after = upTo ++ after := by simp [upTo]
    rw [parts] at allots settled differ free
    obtain ⟨later, inside, -⟩ := allots.exists_of_append
    have part : (configuredIds (upTo.map (·.1))).Sublist (configuredIds ((upTo ++ after).map (·.1))) :=
      ((List.sublist_append_left upTo after).map _).filterMap _
    have none : .connection ∉ upTo.map (·.1) := by
      intro connection
      rw [List.map_append, List.mem_append] at connection
      have earlier := List.singleton_sublist.mpr (connection.resolve_right (by simp))
      refine early made automation ?_
      rw [ConnectedBefore, List.map_append, List.map_cons]
      exact earlier.append (List.singleton_sublist.mpr List.mem_cons_self)
    have separates := Separates.of_notMem (fun id member => settled id (part.subset member))
      (differ.sublist (part.map _)) none
    exact inside.keeps separates
      (fun id member made _ => free id (part.subset member) made)
      (List.mem_append_right _ (List.mem_singleton_self _)) fun _ => trivial
  · exact allots.keeps (.of_type settled differ) (fun id member made _ => free id member made) member
      fun made automation => connected ⟨made, automation⟩

/-- A connection takes a name that one of the later automations has in the configuration: the next that is free. -/
theorem not_all_kept (allots : Allots pairs d next)
    (dense : ∀ id ∈ configuredIds (pairs.map (·.1)), id.role = .generated →
      ∃ earlier, Cpp.IsFirstFree id.type.nameHint earlier id.name ∧ ∀ name ∈ earlier, name ∈ d.symbols.names ∨
        ∃ other ∈ configuredIds (pairs.map (·.1)), other.role = .generated ∧ other.name = name)
    (made : id.role = .generated) (automation : id.type = Automation.type)
    (connected : ConnectedBefore (pairs.map (·.1)) id) :
    ¬∀ other symbol, (Origin.configured other, symbol) ∈ pairs → other.role = .generated →
      symbol.name = other.name := by
  intro all
  obtain ⟨before, connection, after, own, rfl, member⟩ := connected.exists_parts
  have inside : (Origin.configured id, own) ∈ before ++ (.connection, connection) :: after :=
    List.mem_append_right _ (List.mem_cons_of_mem _ member)
  have kept := all id own inside made
  obtain ⟨first, second, former, allot, latter⟩ := allots.exists_of_middle
  have firstFree := allot.chosen.isFirstFree
  have inSecond : connection.name ∈ second.symbols.names := (allot.taken _).mpr (.inl rfl)
  have later := latter.notMem member made
  rw [kept] at later
  obtain ⟨earlier, freeToo, known⟩ := dense id (mem_configuredIds.mpr (List.mem_map_of_mem inside)) made
  rw [automation] at freeToo
  rcases firstFree.eq_or_mem freeToo (fun early => later (allot.retains.names _ early)) with same | inEarlier
  · exact later (same ▸ inSecond)
  -- the name has an owner in the configuration, which is bound neither before the connection nor after it
  rcases known _ inEarlier with atFirst | ⟨other, held, madeToo, same⟩
  · exact firstFree.notMem (former.retains.names _ atFirst)
  · obtain ⟨⟨_, owner⟩, whole, rfl⟩ := List.mem_map.mp (mem_configuredIds.mp held)
    have keptToo := (all other owner whole madeToo).trans same
    rw [← keptToo] at firstFree inSecond
    rcases List.mem_append.mp whole with early | late
    · exact firstFree.notMem (former.chosen early).1
    · rcases List.mem_cons.mp late with same | inAfter
      · cases same
      · exact latter.notMem inAfter madeToo inSecond

end Draft.Allots

end DeviceConfig
