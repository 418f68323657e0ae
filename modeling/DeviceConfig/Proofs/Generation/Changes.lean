import DeviceConfig.Proofs.Generation.Invariant

/-!
Each way in which a step changes a draft keeps it sound: declaring a name, refining one, giving one its
definition, and adding a statement.
-/

namespace DeviceConfig

namespace Symbols

variable {s : Symbols} {name : String} {symbol : Cpp.Symbol} {found changed : Declaration}

section Add

variable (free : symbol.name ∉ s.names)
include free

theorem awaits_add : (s.add symbol).Awaits name ↔ s.Awaits name ∨ name = symbol.name := by
  rw [Awaits, find?_add free]
  by_cases same : name = symbol.name
  · rw [if_pos same]
    exact ⟨fun _ => .inr same, fun _ => ⟨_, rfl, rfl⟩⟩
  · rw [if_neg same]
    exact ⟨.inl, fun either => either.resolve_right same⟩

theorem isBound_add : (s.add symbol).IsBound name ↔ s.IsBound name := by
  rw [IsBound, IsBound, find?_add free]
  by_cases same : name = symbol.name
  · rw [if_pos same]
    constructor
    · rintro ⟨found, held, -, defined⟩
      cases held
      cases defined
    · rintro ⟨found, held, -⟩
      rw [same, find?_eq_none_iff.mpr free] at held
      cases held
  · rw [if_neg same]

theorem IsInline.add (inline : s.IsInline name) : (s.add symbol).IsInline name := by
  obtain ⟨found, held, kind⟩ := inline
  have other : name ≠ symbol.name := fun same => free (same ▸ mem_names_of_find? held)
  exact ⟨found, by rw [find?_add free, if_neg other, held], kind⟩

end Add

theorem find?_replace_other (other : name ≠ changed.symbol.name) :
    (s.replace changed).find? name = s.find? name := by
  rw [find?_replace, if_neg other]

theorem find?_replace_self (held : s.find? changed.symbol.name = some found) :
    (s.replace changed).find? changed.symbol.name = some changed := by
  rw [find?_replace, if_pos rfl, held, Option.map_some]

theorem isInline_replace (held : s.find? changed.symbol.name = some found)
    (kind : changed.symbol.binding = found.symbol.binding) :
    (s.replace changed).IsInline name ↔ s.IsInline name := by
  by_cases same : name = changed.symbol.name
  · rw [IsInline, IsInline, same, find?_replace_self held, held]
    simp only [Option.some.injEq, exists_eq_left', kind]
  · rw [IsInline, IsInline, find?_replace_other same]

theorem awaits_replace_refined (held : s.find? changed.symbol.name = some found)
    (undefined : found.definition = none) (still : changed.definition = none) :
    (s.replace changed).Awaits name ↔ s.Awaits name := by
  by_cases same : name = changed.symbol.name
  · rw [Awaits, Awaits, same, find?_replace_self held, held]
    simp only [Option.some.injEq, exists_eq_left', undefined, still]
  · rw [Awaits, Awaits, find?_replace_other same]

theorem isBound_replace_refined (held : s.find? changed.symbol.name = some found)
    (undefined : found.definition = none) (still : changed.definition = none) :
    (s.replace changed).IsBound name ↔ s.IsBound name := by
  by_cases same : name = changed.symbol.name
  · rw [IsBound, IsBound, same, find?_replace_self held, held]
    simp only [Option.some.injEq, exists_eq_left', undefined, still, Option.isSome_none]
    simp
  · rw [IsBound, IsBound, find?_replace_other same]

theorem awaits_replace_defined (held : s.find? changed.symbol.name = some found)
    (defined : changed.definition.isSome = true) :
    (s.replace changed).Awaits name ↔ s.Awaits name ∧ name ≠ changed.symbol.name := by
  by_cases same : name = changed.symbol.name
  · rw [Awaits, same, find?_replace_self held]
    constructor
    · rintro ⟨_, own, none⟩
      cases own
      rw [none] at defined
      cases defined
    · rintro ⟨-, other⟩
      exact absurd rfl other
  · rw [Awaits, Awaits, find?_replace_other same]
    exact ⟨fun awaits => ⟨awaits, same⟩, And.left⟩

theorem isBound_replace_defined (held : s.find? changed.symbol.name = some found)
    (undefined : found.definition = none) (defined : changed.definition.isSome = true) :
    (s.replace changed).IsBound name ↔
      s.IsBound name ∨ name = changed.symbol.name ∧ changed.symbol.binding = .pointer := by
  by_cases same : name = changed.symbol.name
  · rw [IsBound, IsBound, same, find?_replace_self held, held]
    simp only [Option.some.injEq, exists_eq_left', undefined, Option.isSome_none, defined]
    simp
  · rw [IsBound, IsBound, find?_replace_other same]
    simp [same]

end Symbols

namespace Draft

variable {users : List String} {d : Draft}

theorem mayMention_mono {s t : Symbols} {before after : List Cpp.Statement} {name : String}
    (inline : s.IsInline name → t.IsInline name) (bound : name ∈ boundNames before → name ∈ boundNames after)
    (may : MayMention users s before name) : MayMention users t after name :=
  may.imp id (Or.imp inline bound)

theorem ordered_append {s t : Symbols} {statements : List Cpp.Statement} {last : Cpp.Statement}
    (inline : ∀ name, s.IsInline name → t.IsInline name)
    (ordered : ∀ before statement after, statements = before ++ statement :: after →
      ∀ mentioned ∈ statement.references, MayMention users s before mentioned.name)
    (usable : ∀ mentioned ∈ last.references, MayMention users s statements mentioned.name) :
    ∀ before statement after, statements ++ [last] = before ++ statement :: after →
      ∀ mentioned ∈ statement.references, MayMention users t before mentioned.name := by
  intro before statement after whole mentioned member
  refine mayMention_mono (inline _) id ?_
  -- either it is the new statement, or the new one is the last of those after it
  rcases append_last_eq_iff.mp whole with ⟨rfl, rfl, -⟩ | ⟨others, -, split⟩
  · exact usable mentioned member
  · exact ordered before statement others split mentioned member

theorem ordered_mono {s t : Symbols} {statements : List Cpp.Statement}
    (inline : ∀ name, s.IsInline name → t.IsInline name)
    (ordered : ∀ before statement after, statements = before ++ statement :: after →
      ∀ mentioned ∈ statement.references, MayMention users s before mentioned.name) :
    ∀ before statement after, statements = before ++ statement :: after →
      ∀ mentioned ∈ statement.references, MayMention users t before mentioned.name :=
  fun before statement after whole mentioned member =>
    mayMention_mono (inline _) id (ordered before statement after whole mentioned member)

theorem Sound.run (sound : d.Sound users) {e : Cpp.Expr} (usable : d.Usable users e) :
    Binds users [] d { d with statements := d.statements ++ [.run e] } := by
  have same : boundNames (d.statements ++ [.run e]) = boundNames d.statements := by
    rw [boundNames_append]
    exact List.append_nil _
  refine ⟨⟨sound.aliases, sound.declared, sound.kinds, ?_, ?_, ?_⟩, fun name may => ?_, fun name => ?_⟩
  · rw [same]
    exact sound.once
  · intro name
    rw [same]
    exact sound.bound name
  · exact ordered_append (fun _ => id) sound.ordered usable
  · rw [MayMention, same]
    exact may
  · exact ⟨fun awaits => ⟨awaits, List.not_mem_nil⟩, And.left⟩

theorem Sound.keep (sound : d.Sound users) {next : Draft}
    (declarations : next.symbols.declarations = d.symbols.declarations)
    (aliases : next.symbols.aliases = d.symbols.aliases) (statements : next.statements = d.statements) :
    Binds users [] d next := by
  obtain ⟨⟨ds, as, component⟩, sts, metadata, paths⟩ := d
  obtain ⟨⟨ds', as', component'⟩, sts', metadata', paths'⟩ := next
  cases declarations
  cases aliases
  cases statements
  have unchanged : (⟨⟨ds, as, component'⟩, sts, metadata', paths'⟩ : Draft).Sound users :=
    ⟨sound.aliases, sound.declared, sound.kinds, sound.once, sound.bound, sound.ordered⟩
  exact ⟨unchanged, fun _ => id, fun _ => ⟨fun awaits => ⟨awaits, List.not_mem_nil⟩, And.left⟩⟩

theorem Sound.add (sound : d.Sound users) {symbol : Cpp.Symbol} (free : symbol.name ∉ d.symbols.names)
    (kind : symbol.binding ≠ .value) :
    Sound users { d with symbols := d.symbols.add symbol } := by
  refine ⟨sound.aliases, fun name member => ?_, fun name found held => ?_, sound.once, fun name => ?_, ?_⟩
  · obtain ⟨found, held, pointer⟩ := sound.declared name member
    have other : name ≠ symbol.name := fun same => free (same ▸ Symbols.mem_names_of_find? held)
    exact ⟨found, by rw [Symbols.find?_add free, if_neg other, held], pointer⟩
  · rw [Symbols.find?_add free] at held
    split at held
    · cases held
      cases binding : symbol.binding with
      | pointer => exact .inl rfl
      | inline => exact .inr ⟨rfl, fun _ none => nomatch none⟩
      | value => exact absurd binding kind
    · exact sound.kinds name found held
  · rw [Symbols.isBound_add free]
    exact sound.bound name
  · exact ordered_mono (fun _ => Symbols.IsInline.add free) sound.ordered

section Replace

variable {found changed : Declaration} (held : d.symbols.find? changed.symbol.name = some found)
  (kind : changed.symbol.binding = found.symbol.binding)
include held kind

theorem Sound.declared_replace (sound : d.Sound users) : ∀ name ∈ users, ∃ other,
    (d.symbols.replace changed).find? name = some other ∧ other.symbol.binding = .pointer := by
  intro name member
  obtain ⟨before, own, pointer⟩ := sound.declared name member
  by_cases same : name = changed.symbol.name
  · subst same
    cases held.symm.trans own
    exact ⟨changed, Symbols.find?_replace_self held, kind.trans pointer⟩
  · exact ⟨before, by rw [Symbols.find?_replace_other same, own], pointer⟩

theorem Sound.kinds_replace (sound : d.Sound users)
    (mentions : changed.symbol.binding = .inline → ∀ definition, changed.definition = some definition →
      ∀ mentioned ∈ definition.references, mentioned.name ∈ users) :
    ∀ name other, (d.symbols.replace changed).find? name = some other → other.symbol.binding = .pointer ∨
      other.symbol.binding = .inline ∧ ∀ definition, other.definition = some definition →
        ∀ mentioned ∈ definition.references, mentioned.name ∈ users := by
  intro name other own
  by_cases same : name = changed.symbol.name
  · subst same
    cases (Symbols.find?_replace_self held).symm.trans own
    rcases sound.kinds _ found held with pointer | ⟨inline, -⟩
    · exact .inl (kind.trans pointer)
    · exact .inr ⟨kind.trans inline, mentions (kind.trans inline)⟩
  · rw [Symbols.find?_replace_other same] at own
    exact sound.kinds name other own

end Replace

theorem Sound.refine (sound : d.Sound users) {found changed : Declaration}
    (held : d.symbols.find? changed.symbol.name = some found) (undefined : found.definition = none)
    (kind : changed.symbol.binding = found.symbol.binding) (still : changed.definition = none) :
    Binds users [] d { d with symbols := d.symbols.replace changed } := by
  have inline (name : String) := @Symbols.isInline_replace d.symbols name found changed held kind
  have kinds := sound.kinds_replace held kind fun _ definition defined => by
    rw [still] at defined
    cases defined
  refine ⟨⟨sound.aliases, sound.declared_replace held kind, kinds, sound.once, fun name => ?_, ?_⟩,
    fun name may => ?_, fun name => ?_⟩
  · rw [Symbols.isBound_replace_refined held undefined still]
    exact sound.bound name
  · exact ordered_mono (fun name => (inline name).mpr) sound.ordered
  · exact mayMention_mono (inline name).mpr id may
  · rw [Symbols.awaits_replace_refined held undefined still]
    exact ⟨fun awaits => ⟨awaits, List.not_mem_nil⟩, And.left⟩

/-- A name that waits gets its definition: an object together with the statement that binds it. -/
theorem Sound.bind (sound : d.Sound users) {symbol : Cpp.Symbol} {found : Declaration}
    (held : d.symbols.find? symbol.name = some found) (undefined : found.definition = none)
    (pointer : found.symbol.binding = .pointer) {definition : Cpp.Expr} (usable : d.Usable users definition) :
    Binds users [symbol.name] d
      { d with
        symbols := d.symbols.replace { found with definition := some definition }
        statements := d.statements ++ [.bind symbol definition] } := by
  have own := Symbols.name_of_find? held
  let changed : Declaration := { found with definition := some definition }
  have heldToo : d.symbols.find? changed.symbol.name = some found := by rw [← own] at held; exact held
  have inline (name : String) := @Symbols.isInline_replace d.symbols name found changed heldToo rfl
  have isBound (name : String) :=
    @Symbols.isBound_replace_defined d.symbols name found changed heldToo undefined rfl
  -- a name that waits is bound by no statement so far
  have unbound : symbol.name ∉ boundNames d.statements := by
    intro already
    obtain ⟨other, same, -, defined⟩ := (sound.bound _).mp already
    cases held.symm.trans same
    rw [undefined] at defined
    cases defined
  have kinds := sound.kinds_replace heldToo rfl fun inline => by
    rw [pointer] at inline
    cases inline
  refine ⟨⟨sound.aliases, sound.declared_replace heldToo rfl, kinds, ?_, fun name => ?_, ?_⟩,
    fun name may => ?_, fun name => ?_⟩
  · rw [boundNames_bind, ← List.concat_eq_append, List.nodup_concat]
    exact ⟨unbound, sound.once⟩
  · rw [boundNames_bind, List.mem_append, sound.bound, isBound, List.mem_singleton]
    have kindToo : changed.symbol.binding = .pointer := pointer
    have nameToo : changed.symbol.name = symbol.name := own
    rw [kindToo, nameToo, and_iff_left rfl]
  · exact ordered_append (fun name => (inline name).mpr) sound.ordered usable
  · refine mayMention_mono (inline name).mpr (fun member => ?_) may
    rw [boundNames_bind]
    exact List.mem_append_left _ member
  · rw [Symbols.awaits_replace_defined heldToo rfl, List.mem_singleton]
    have nameToo : changed.symbol.name = symbol.name := own
    rw [nameToo]

theorem Sound.defineInline (sound : d.Sound users) {name : String} {found : Declaration}
    (held : d.symbols.find? name = some found) (undefined : found.definition = none)
    (inline : found.symbol.binding = .inline) {definition : Cpp.Expr}
    (mentions : ∀ mentioned ∈ definition.references, mentioned.name ∈ users) :
    Binds users [name] d { d with symbols := d.symbols.replace { found with definition := some definition } } := by
  have own := Symbols.name_of_find? held
  let changed : Declaration := { found with definition := some definition }
  have heldToo : d.symbols.find? changed.symbol.name = some found := by rw [← own] at held; exact held
  have isInline (name : String) := @Symbols.isInline_replace d.symbols name found changed heldToo rfl
  have isBound (name : String) :=
    @Symbols.isBound_replace_defined d.symbols name found changed heldToo undefined rfl
  have notPointer : changed.symbol.binding ≠ .pointer := by
    intro pointer
    cases inline.symm.trans pointer
  have kinds := sound.kinds_replace heldToo rfl fun _ other defined => by
    cases defined
    exact mentions
  refine ⟨⟨sound.aliases, sound.declared_replace heldToo rfl, kinds, sound.once, fun other => ?_, ?_⟩,
    fun other may => ?_, fun other => ?_⟩
  · rw [isBound, sound.bound]
    exact (or_iff_left fun both => notPointer both.2).symm
  · exact ordered_mono (fun other => (isInline other).mpr) sound.ordered
  · exact mayMention_mono (isInline other).mpr id may
  · rw [Symbols.awaits_replace_defined heldToo rfl, List.mem_singleton]
    have nameToo : changed.symbol.name = name := own
    rw [nameToo]

/-- The name that was declared last is free before, so binding it counts for nothing. -/
theorem Binds.of_add {symbol : Cpp.Symbol} (free : symbol.name ∉ d.symbols.names) {names : List String}
    {next : Draft}
    (binds : Binds users (symbol.name :: names) { d with symbols := d.symbols.add symbol } next) :
    Binds users names d next := by
  refine ⟨binds.sound, fun name may => ?_, fun name => ?_⟩
  · exact binds.mentions name (mayMention_mono (Symbols.IsInline.add free) id may)
  · rw [binds.awaits, Symbols.awaits_add free, List.mem_cons, not_or]
    constructor
    · rintro ⟨before | new, other, rest⟩
      · exact ⟨before, rest⟩
      · exact absurd new other
    · rintro ⟨before, rest⟩
      refine ⟨.inl before, ?_, rest⟩
      rintro rfl
      obtain ⟨found, held, -⟩ := before
      exact free (Symbols.mem_names_of_find? held)

/-- A placeholder that waits in a draft waits on, as it is, while other names are bound. -/
theorem Binds.exists_placeholder {names : List String} {next : Draft} {name : String}
    (binds : Binds users names d next) (inline : d.symbols.IsInline name) (awaits : d.symbols.Awaits name)
    (own : name ∉ users) (other : name ∉ names) :
    ∃ found, next.symbols.find? name = some found ∧ found.definition = none ∧
      found.symbol.binding = .inline := by
  obtain ⟨found, held, undefined⟩ := binds.awaits_of_notMem awaits other
  refine ⟨found, held, undefined, ?_⟩
  rcases binds.mentions name (.inr (.inl inline)) with user | ⟨same, heldToo, kind⟩ | bound
  · exact absurd user own
  · cases held.symm.trans heldToo
    exact kind
  · obtain ⟨same, heldToo, -, defined⟩ := (binds.sound.bound name).mp bound
    cases held.symm.trans heldToo
    rw [undefined] at defined
    cases defined

theorem AwaitsAll.add {names : List String} {symbol : Cpp.Symbol} (awaits : AwaitsAll users d names)
    (free : symbol.name ∉ d.symbols.names) :
    AwaitsAll users { d with symbols := d.symbols.add symbol } names :=
  ⟨awaits.differ, awaits.known, fun name member => (Symbols.awaits_add free).mpr (.inl (awaits.each name member))⟩

end Draft

end DeviceConfig
