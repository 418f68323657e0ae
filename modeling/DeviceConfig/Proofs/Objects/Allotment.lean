import DeviceConfig.Proofs.Objects.Names
import DeviceConfig.Proofs.Program.Symbols

/-!
How objects come by their names while a program is built: one after the other, each by what it is made for
(`Draft.Allots`).
-/

namespace DeviceConfig

/-- Whether objects of this type, for some type of argument, have identifiers in configurations. -/
def CppType.isObject (type : CppType) : Bool := (objectTypes.map CppType.name).contains type.name

/-- The symbols that statements bind to such objects, in order. -/
def objectSymbols (statements : List Cpp.Statement) : List Cpp.Symbol :=
  (statements.filterMap Cpp.Statement.bound?).filter (·.type.isObject)

theorem objectSymbols_append (before after : List Cpp.Statement) :
    objectSymbols (before ++ after) = objectSymbols before ++ objectSymbols after := by
  simp [objectSymbols]

/-- What is known of an identifier of an object once it has its name, where the user declared the names `users`. -/
structure ObjectId.IsSettled (users : List String) (id : ObjectId) : Prop where
  object : id.role ≠ .used
  listed : id.type ∈ objectTypes
  valid : Cpp.isName id.name = true
  own : id.role = .declared → id.name ∈ users
  called : id.role = .generated → Cpp.IsCalledAfter id.type.nameHint id.name

/-- What an object is made for. -/
inductive Origin where
  /-- The configuration has an identifier for it. -/
  | configured (id : ObjectId)
  /-- It connects a trigger that a switch has anyway with the actions that stand there. -/
  | connection
  deriving DecidableEq

namespace Origin

def id : Origin → ObjectId
  | configured id => id
  | connection => .generated Automation.type

def configured? : Origin → Option ObjectId
  | configured id => some id
  | connection => none

/-- How an object comes by its name where these names are taken. -/
structure Chooses (origin : Origin) (taken : List String) (name : String) : Prop where
  made : origin.id.role = .generated → Cpp.IsFirstFree (Cpp.toName origin.id.name) taken name
  given : origin.id.role ≠ .generated → name = origin.id.name

/-- The symbol is as that of an object of this origin must be. -/
structure Suits (origin : Origin) (symbol : Cpp.Symbol) : Prop where
  named : origin.id.role = .declared → symbol.name = origin.id.name
  typed : origin.id.role = .generated → symbol.type.name = origin.id.type.name

variable {users taken : List String} {origin : Origin} {name : String}

/-- A name that is made up is called after the type of the object. -/
theorem Chooses.isCalledAfter (chooses : origin.Chooses taken name)
    (settled : ∀ id, origin = configured id → id.IsSettled users) (made : origin.id.role = .generated) :
    Cpp.IsCalledAfter origin.id.type.nameHint name := by
  have called := (chooses.made made).isCalledAfter
  cases origin with
  | connection => exact called
  | configured id =>
    have own := settled id rfl
    exact (own.called made).trans (Cpp.toName_of_isName own.valid ▸ called)

/-- A connection takes the first name that is free for an automation. -/
theorem Chooses.isFirstFree (chooses : connection.Chooses taken name) :
    Cpp.IsFirstFree Automation.type.nameHint taken name := by
  have valid : Cpp.isName Automation.type.nameHint = true := by decide +kernel
  have made : Cpp.IsFirstFree (Cpp.toName Automation.type.nameHint) taken name := chooses.made rfl
  rwa [Cpp.toName_of_isName valid] at made

/-- A name that nothing else has taken is kept. -/
theorem Chooses.eq_of_notMem {id : ObjectId} (chooses : (configured id).Chooses taken name)
    (valid : Cpp.isName id.name = true) (free : id.role = .generated → id.name ∉ taken) : name = id.name := by
  by_cases made : id.role = .generated
  · have firstFree : Cpp.IsFirstFree id.name taken name := Cpp.toName_of_isName valid ▸ chooses.made made
    exact firstFree.eq_of_notMem (free made)
  · exact chooses.given made

end Origin

/-- The identifiers of the objects that have one. -/
def configuredIds (origins : List Origin) : List ObjectId := origins.filterMap Origin.configured?

theorem mem_configuredIds {origins : List Origin} {id : ObjectId} :
    id ∈ configuredIds origins ↔ .configured id ∈ origins := by
  rw [configuredIds, List.mem_filterMap]
  constructor
  · rintro ⟨origin, member, same⟩
    cases origin <;> cases same
    exact member
  · exact fun member => ⟨_, member, rfl⟩

theorem mem_configuredIds_cons {origins : List Origin} {id : ObjectId} (origin : Origin)
    (inside : id ∈ configuredIds origins) : id ∈ configuredIds (origin :: origins) :=
  mem_configuredIds.mpr (List.mem_cons_of_mem _ (mem_configuredIds.mp inside))

namespace Draft

variable {d first next last : Draft} {users : List String} {origin : Origin} {symbol : Cpp.Symbol}
  {pairs others : List (Origin × Cpp.Symbol)}

/-- The name stands for an object that has an identifier in the configuration. -/
def IsObject (d : Draft) (name : String) : Prop :=
  ∃ found, d.symbols.find? name = some found ∧ found.symbol.type.isObject = true

/-- The names of users lead to their objects. -/
def Leads (users : List String) (d : Draft) : Prop :=
  ∀ name ∈ users, Entries.get? name d.symbols.aliases = some name ∧ d.IsObject name

/-- What is there in the first draft is there in the second. -/
structure Retains (d next : Draft) : Prop where
  aliases : next.symbols.aliases = d.symbols.aliases
  names : ∀ name ∈ d.symbols.names, name ∈ next.symbols.names
  objects : ∀ name, d.IsObject name → next.IsObject name

theorem Retains.refl (d : Draft) : d.Retains d := ⟨rfl, fun _ => id, fun _ => id⟩

theorem Retains.trans (before : d.Retains next) (after : next.Retains last) : d.Retains last :=
  ⟨after.aliases.trans before.aliases, fun name member => after.names name (before.names name member),
    fun name object => after.objects name (before.objects name object)⟩

theorem Retains.leads (retains : d.Retains next) (leads : d.Leads users) : next.Leads users := by
  intro name member
  obtain ⟨own, object⟩ := leads name member
  rw [retains.aliases]
  exact ⟨own, retains.objects name object⟩

/-- No object is bound, and no names are taken but those of parts of actions. -/
structure Passes (d next : Draft) : Prop where
  retains : d.Retains next
  parts : ∀ name ∈ next.symbols.names, name ∈ d.symbols.names ∨ Cpp.IsPartName name
  none : objectSymbols next.statements = objectSymbols d.statements

theorem Passes.refl (d : Draft) : d.Passes d := ⟨.refl d, fun _ => .inl, rfl⟩

theorem Passes.trans (before : d.Passes next) (after : next.Passes last) : d.Passes last :=
  ⟨before.retains.trans after.retains, fun name member => (after.parts name member).elim (before.parts name) .inr,
    after.none.trans before.none⟩

/-- One object is bound, and takes the name of this symbol. -/
structure Allot (origin : Origin) (symbol : Cpp.Symbol) (d next : Draft) : Prop where
  retains : d.Retains next
  chosen : origin.Chooses d.symbols.names symbol.name
  typed : origin.id.role = .generated → symbol.type.name = origin.id.type.name
  taken : ∀ other, other ∈ next.symbols.names ↔ other = symbol.name ∨ other ∈ d.symbols.names
  one : objectSymbols next.statements = objectSymbols d.statements ++ [symbol]

/-- Objects of these origins, and no others, are bound one after the other to the symbols that they stand with. -/
inductive Allots : List (Origin × Cpp.Symbol) → Draft → Draft → Prop where
  | nil {d next : Draft} : d.Passes next → Allots [] d next
  | cons {origin : Origin} {symbol : Cpp.Symbol} {rest : List (Origin × Cpp.Symbol)} {d first second next : Draft} :
    d.Passes first → first.Allot origin symbol second → Allots rest second next →
    Allots ((origin, symbol) :: rest) d next

namespace Allots

theorem retains (allots : Allots pairs d next) : d.Retains next := by
  induction allots with
  | nil passes => exact passes.retains
  | cons passes allot _ ih => exact (passes.retains.trans allot.retains).trans ih

theorem after (passes : d.Passes first) (allots : Allots pairs first next) : Allots pairs d next := by
  cases allots with
  | nil more => exact .nil (passes.trans more)
  | cons more allot rest => exact .cons (passes.trans more) allot rest

theorem append (before : Allots pairs d next) (rest : Allots others next last) :
    Allots (pairs ++ others) d last := by
  induction before with
  | nil passes => exact rest.after passes
  | cons passes allot _ ih => exact .cons passes allot (ih rest)

theorem exists_of_append (allots : Allots (pairs ++ others) d last) :
    ∃ next, Allots pairs d next ∧ Allots others next last := by
  induction pairs generalizing d with
  | nil => exact ⟨d, .nil (.refl d), allots⟩
  | cons pair rest ih =>
    cases allots with
    | cons passes allot tail =>
      obtain ⟨next, inside, others⟩ := ih tail
      exact ⟨next, .cons passes allot inside, others⟩

theorem exists_of_middle (allots : Allots (pairs ++ (origin, symbol) :: others) d last) :
    ∃ first second, Allots pairs d first ∧ first.Allot origin symbol second ∧ Allots others second last := by
  obtain ⟨next, before, after⟩ := allots.exists_of_append
  cases after with
  | cons passes allot rest => exact ⟨_, _, List.append_nil pairs ▸ before.append (.nil passes), allot, rest⟩

theorem objectSymbols_eq (allots : Allots pairs d next) :
    objectSymbols next.statements = objectSymbols d.statements ++ pairs.map (·.2) := by
  induction allots with
  | nil passes => rw [passes.none, List.map_nil, List.append_nil]
  | cons passes allot _ ih =>
    rw [ih, allot.one, passes.none, List.append_assoc, List.singleton_append, List.map_cons]

theorem suits (allots : Allots pairs d next) : ∀ pair ∈ pairs, pair.1.Suits pair.2 := by
  induction allots with
  | nil => exact List.forall_mem_nil _
  | cons _ allot _ ih =>
    refine List.forall_mem_cons.mpr ⟨⟨fun declared => allot.chosen.given ?_, allot.typed⟩, ih⟩
    rw [declared]
    decide

/-- Each name is chosen among those that were free by then, and is taken from then on. -/
theorem chosen (allots : Allots pairs d next) (member : (origin, symbol) ∈ pairs) :
    symbol.name ∈ next.symbols.names ∧
      ∃ taken, origin.Chooses taken symbol.name ∧ ∀ other ∈ d.symbols.names, other ∈ taken := by
  induction allots with
  | nil => cases member
  | cons passes allot rest ih =>
    rcases List.mem_cons.mp member with same | inRest
    · cases same
      exact ⟨rest.retains.names _ ((allot.taken _).mpr (.inl rfl)), _, allot.chosen, passes.retains.names⟩
    · obtain ⟨kept, taken, chosen, before⟩ := ih inRest
      refine ⟨kept, taken, chosen, fun other held => before other ?_⟩
      exact allot.retains.names other (passes.retains.names other held)

/-- A name that is made up had not been taken. -/
theorem notMem (allots : Allots pairs d next) (member : (origin, symbol) ∈ pairs)
    (made : origin.id.role = .generated) : symbol.name ∉ d.symbols.names := by
  obtain ⟨-, taken, chosen, before⟩ := allots.chosen member
  exact fun held => (chosen.made made).notMem (before symbol.name held)

end Allots

end Draft

end DeviceConfig
