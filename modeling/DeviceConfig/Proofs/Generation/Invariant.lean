import DeviceConfig.Program.Draft
import DeviceConfig.Proofs.Program.Order

/-!
What holds of a draft between any two steps that build a program (`Draft.Sound`), and what a step may do
to it (`Draft.Binds`): names that the user declared may be mentioned at any time, but wait for the one
statement that binds them; any other object is bound before it is mentioned.
-/

namespace DeviceConfig

namespace Symbols

/-- The name is declared, but has no definition so far. -/
def Awaits (s : Symbols) (name : String) : Prop :=
  ∃ found, s.find? name = some found ∧ found.definition = none

/-- The name stands for an object that has a definition. -/
def IsBound (s : Symbols) (name : String) : Prop :=
  ∃ found, s.find? name = some found ∧ found.symbol.binding = .pointer ∧ found.definition.isSome = true

end Symbols

/-- A statement after these ones may mention the name. -/
def MayMention (users : List String) (s : Symbols) (before : List Cpp.Statement) (name : String) : Prop :=
  name ∈ users ∨ s.IsInline name ∨ name ∈ boundNames before

namespace Draft

variable {users : List String}

/-- What holds between any two steps, where the user declared the names `users`. -/
structure Sound (users : List String) (d : Draft) : Prop where
  aliases : ∀ name, Entries.get? name d.symbols.aliases = if name ∈ users then some name else none
  declared : ∀ name ∈ users, ∃ found, d.symbols.find? name = some found ∧ found.symbol.binding = .pointer
  kinds : ∀ name found, d.symbols.find? name = some found → found.symbol.binding = .pointer ∨
    found.symbol.binding = .inline ∧ ∀ definition, found.definition = some definition →
      ∀ mentioned ∈ definition.references, mentioned.name ∈ users
  once : (boundNames d.statements).Nodup
  bound : ∀ name, name ∈ boundNames d.statements ↔ d.symbols.IsBound name
  ordered : ∀ before statement after, d.statements = before ++ statement :: after →
    ∀ mentioned ∈ statement.references, MayMention users d.symbols before mentioned.name

/-- A draft of which nothing is missing: no name waits. -/
structure Complete (users : List String) (d : Draft) : Prop where
  sound : d.Sound users
  defined : ∀ name, ¬d.symbols.Awaits name

/-- The expression may stand in the next statement. -/
def Usable (users : List String) (d : Draft) (e : Cpp.Expr) : Prop :=
  ∀ mentioned ∈ e.references, MayMention users d.symbols d.statements mentioned.name

/-- From the first draft to the second, of the names that waited just the given ones were defined. -/
structure Binds (users names : List String) (d next : Draft) : Prop where
  sound : next.Sound users
  mentions : ∀ name, MayMention users d.symbols d.statements name →
    MayMention users next.symbols next.statements name
  awaits : ∀ name, next.symbols.Awaits name ↔ d.symbols.Awaits name ∧ name ∉ names

namespace Binds

variable {names others : List String} {d next last : Draft}

theorem refl (sound : d.Sound users) : Binds users [] d d :=
  ⟨sound, fun _ => id, fun _ => ⟨fun awaits => ⟨awaits, List.not_mem_nil⟩, And.left⟩⟩

theorem trans (first : Binds users names d next) (second : Binds users others next last) :
    Binds users (names ++ others) d last := by
  refine ⟨second.sound, fun name may => second.mentions name (first.mentions name may), fun name => ?_⟩
  rw [second.awaits, first.awaits, List.mem_append, not_or, and_assoc]

theorem congr (binds : Binds users names d next) (same : ∀ name, name ∈ names ↔ name ∈ others) :
    Binds users others d next := by
  refine ⟨binds.sound, binds.mentions, fun name => ?_⟩
  rw [binds.awaits, same]

theorem usable (binds : Binds users names d next) {e : Cpp.Expr} (before : d.Usable users e) :
    next.Usable users e :=
  fun mentioned member => binds.mentions _ (before mentioned member)

theorem awaits_of_notMem (binds : Binds users names d next) {name : String}
    (before : d.symbols.Awaits name) (other : name ∉ names) : next.symbols.Awaits name :=
  (binds.awaits name).mpr ⟨before, other⟩

end Binds

/-- The names wait, and none of them stands twice. -/
structure AwaitsAll (users : List String) (d : Draft) (names : List String) : Prop where
  differ : names.Nodup
  known : ∀ name ∈ names, name ∈ users
  each : ∀ name ∈ names, d.symbols.Awaits name

namespace AwaitsAll

variable {names others : List String} {d next : Draft}

theorem nil : AwaitsAll users d [] :=
  ⟨List.nodup_nil, fun _ member => (nomatch member), fun _ member => (nomatch member)⟩

theorem left (awaits : AwaitsAll users d (names ++ others)) : AwaitsAll users d names :=
  ⟨(List.nodup_append.mp awaits.differ).1, fun name member => awaits.known name (List.mem_append_left _ member),
    fun name member => awaits.each name (List.mem_append_left _ member)⟩

theorem right (awaits : AwaitsAll users d (names ++ others)) (binds : Binds users names d next) :
    AwaitsAll users next others := by
  obtain ⟨differ, known, each⟩ := awaits
  obtain ⟨-, othersDiffer, apart⟩ := List.nodup_append.mp differ
  refine ⟨othersDiffer, fun name member => known name (List.mem_append_right _ member),
    fun name member => ?_⟩
  refine binds.awaits_of_notMem (each name (List.mem_append_right _ member)) fun inside => ?_
  exact apart name inside name member rfl

theorem later (awaits : AwaitsAll users d names) (binds : Binds users [] d next) : AwaitsAll users next names :=
  @right users [] names d next awaits binds

theorem perm (awaits : AwaitsAll users d names) (same : names.Perm others) : AwaitsAll users d others :=
  ⟨same.nodup_iff.mp awaits.differ, fun name member => awaits.known name (same.mem_iff.mpr member),
    fun name member => awaits.each name (same.mem_iff.mpr member)⟩

end AwaitsAll

end Draft

end DeviceConfig
