import DeviceConfig.Proofs.Program.Rendering
import DeviceConfig.Proofs.Program.Symbols
import Mathlib.Logic.Relation

/-!
What the definitions of inline names lead to, and when writing out an expression ends with a text
(`Cpp.Expr.exists_text_iff`). The definitions may go in circles; such a name is refused, since the names that a
definition stands inside of do not come again.
-/

namespace DeviceConfig

namespace Symbols

/-- The first name is inline, and its definition mentions the second. -/
def Unfolds (s : Symbols) (outer inner : String) : Prop :=
  ∃ found definition, s.find? outer = some found ∧ found.symbol.binding = .inline ∧
    found.definition = some definition ∧ inner ∈ definition.references.map (·.name)

/-- Definitions of inline names lead from one of the symbols to the name, which may be its own. -/
def Involves (s : Symbols) (symbols : List Cpp.Symbol) (name : String) : Prop :=
  ∃ symbol ∈ symbols, Relation.ReflTransGen s.Unfolds symbol.name name

/-- The symbols that a statement mentions, be it in the definitions of inline names. -/
inductive Mentions (s : Symbols) (statement : Cpp.Statement) : Cpp.Symbol → Prop where
  | direct {symbol : Cpp.Symbol} : symbol ∈ statement.references → Mentions s statement symbol
  | inner {outer symbol : Cpp.Symbol} {found : Declaration} {definition : Cpp.Expr} :
    Mentions s statement outer → s.find? outer.name = some found → found.symbol.binding = .inline →
    found.definition = some definition → symbol ∈ definition.references → Mentions s statement symbol

variable {s : Symbols} {name : String} {enclosing : List String} {symbol : Cpp.Symbol}

theorem exists_mentions_iff {statement : Cpp.Statement} :
    (∃ symbol, s.Mentions statement symbol ∧ symbol.name = name) ↔ s.Involves statement.references name := by
  constructor
  · rintro ⟨symbol, mentions, rfl⟩
    induction mentions with
    | direct member => exact ⟨_, member, .refl⟩
    | inner _ held inline defined member ih =>
      obtain ⟨start, mentioned, leads⟩ := ih
      exact ⟨start, mentioned, leads.tail ⟨_, _, held, inline, defined, List.mem_map_of_mem member⟩⟩
  · rintro ⟨start, mentioned, leads⟩
    induction leads with
    | refl => exact ⟨start, .direct mentioned, rfl⟩
    | tail _ unfolds ih =>
      obtain ⟨found, definition, held, inline, defined, inside⟩ := unfolds
      obtain ⟨symbol, member, rfl⟩ := List.mem_map.mp inside
      obtain ⟨outer, mentions, rfl⟩ := ih
      exact ⟨symbol, .inner mentions held inline defined member, rfl⟩

/-- Whatever the definitions of inline names lead to from this one is defined and, if it is inline, neither
    one of the enclosing names nor part of its own definition. -/
def Unfoldable (s : Symbols) (enclosing : List String) (name : String) : Prop :=
  ∀ inner, Relation.ReflTransGen s.Unfolds name inner → s.IsDefined inner ∧
    (s.IsInline inner → inner ∉ enclosing ∧ ¬Relation.TransGen s.Unfolds inner inner)

theorem Unfoldable.exists_definition (unfoldable : s.Unfoldable enclosing name) :
    ∃ found definition, s.find? name = some found ∧ found.definition = some definition ∧
      (found.symbol.binding = .inline → name ∉ enclosing ∧
        ∀ mentioned ∈ definition.references, s.Unfoldable (name :: enclosing) mentioned.name) := by
  obtain ⟨⟨found, held, some⟩, alone⟩ := unfoldable name .refl
  obtain ⟨definition, defined⟩ := Option.isSome_iff_exists.mp some
  refine ⟨found, definition, held, defined, fun inline => ?_⟩
  obtain ⟨outside, acyclic⟩ := alone ⟨found, held, inline⟩
  refine ⟨outside, fun mentioned member inner leads => ?_⟩
  have step : s.Unfolds name mentioned.name :=
    ⟨found, definition, held, inline, defined, List.mem_map_of_mem member⟩
  obtain ⟨definedInner, aloneInner⟩ := unfoldable inner (.head step leads)
  refine ⟨definedInner, fun inlineInner => ⟨fun inside => ?_, (aloneInner inlineInner).2⟩⟩
  rcases List.mem_cons.mp inside with rfl | before
  · exact acyclic (.head' step leads)
  · exact (aloneInner inlineInner).1 before

theorem unfoldable_of_definition {found : Declaration} {definition : Cpp.Expr} (held : s.find? name = some found)
    (defined : found.definition = some definition)
    (each : found.symbol.binding = .inline → name ∉ enclosing ∧
      ∀ mentioned ∈ definition.references, s.Unfoldable (name :: enclosing) mentioned.name) :
    s.Unfoldable enclosing name := by
  -- whatever a first step leads to, it leads to from a name in the definition
  have step {inner : String} (unfolds : s.Unfolds name inner) : found.symbol.binding = .inline ∧
      name ∉ enclosing ∧ s.Unfoldable (name :: enclosing) inner := by
    obtain ⟨_, _, heldToo, inline, definedToo, mentions⟩ := unfolds
    cases held.symm.trans heldToo
    cases defined.symm.trans definedToo
    obtain ⟨outside, unfoldable⟩ := each inline
    obtain ⟨mentioned, member, rfl⟩ := List.mem_map.mp mentions
    exact ⟨inline, outside, unfoldable mentioned member⟩
  intro inner leads
  rcases leads.cases_head with rfl | ⟨next, unfolds, rest⟩
  · refine ⟨⟨found, held, by rw [defined]; rfl⟩, fun ⟨_, heldToo, inline⟩ => ?_⟩
    cases held.symm.trans heldToo
    refine ⟨(each inline).1, fun loop => ?_⟩
    obtain ⟨next, unfolds, back⟩ := Relation.TransGen.head'_iff.mp loop
    have again := (step unfolds).2.2 name back
    exact (again.2 ⟨found, held, inline⟩).1 (List.mem_cons_self ..)
  · obtain ⟨definedInner, alone⟩ := (step unfolds).2.2 inner rest
    refine ⟨definedInner, fun inline => ⟨fun inside => ?_, (alone inline).2⟩⟩
    exact (alone inline).1 (List.mem_cons_of_mem _ inside)

theorem exists_nameText_iff_unfoldable :
    (∃ text, s.nameText enclosing symbol = .ok text) ↔ s.Unfoldable enclosing symbol.name := by
  -- each definition that is entered leaves fewer names that have not been
  induction left : s.unvisited enclosing using Nat.strongRecOn generalizing enclosing symbol with
  | ind n ih =>
    have deeper {found : Declaration} (held : s.find? symbol.name = some found)
        (outside : symbol.name ∉ enclosing) (mentioned : Cpp.Symbol) :
        (∃ text, s.nameText (symbol.name :: enclosing) mentioned = .ok text) ↔
          s.Unfoldable (symbol.name :: enclosing) mentioned.name := by
      refine ih _ ?_ rfl
      rw [← left]
      exact unvisited_cons_lt held (by simpa using outside)
    rw [exists_nameText_iff]
    constructor
    · rintro ⟨found, definition, held, defined, each⟩
      refine unfoldable_of_definition held defined fun inline => ?_
      obtain ⟨outside, texts⟩ := each inline
      exact ⟨outside, fun mentioned member => (deeper held outside mentioned).mp (texts mentioned member)⟩
    · intro unfoldable
      obtain ⟨found, definition, held, defined, each⟩ := unfoldable.exists_definition
      refine ⟨found, definition, held, defined, fun inline => ?_⟩
      obtain ⟨outside, inner⟩ := each inline
      exact ⟨outside, fun mentioned member => (deeper held outside mentioned).mpr (inner mentioned member)⟩

theorem isDefined_of_mentions {statement : Cpp.Statement} {text : String} (read : statement.text s = .ok text)
    (mentions : s.Mentions statement symbol) : s.IsDefined symbol.name := by
  obtain ⟨start, mentioned, leads⟩ := exists_mentions_iff.mp ⟨symbol, mentions, rfl⟩
  have unfoldable := exists_nameText_iff_unfoldable.mp (statement.names_of_textWith read start mentioned)
  exact (unfoldable symbol.name leads).1

/-- The text of a name where definitions are nested no deeper than `depth`. What a name deeper than that
    gives is up to `beyond`. -/
def nameTextWithin (s : Symbols) (beyond : Cpp.Symbol → Except CompileError String) :
    (depth : Nat) → (enclosing : List String) → Cpp.Symbol → Except CompileError String
  | 0, _, symbol => beyond symbol
  | depth + 1, enclosing, symbol =>
    match s.find? symbol.name with
    | none => .error (.undeclared symbol.name s.component s.names)
    | some declaration =>
      match declaration.definition with
      | none => .error (.unrenderable symbol.name declaration.component .undefined)
      | some definition =>
        if declaration.symbol.binding ≠ .inline then .ok symbol.name
        else if enclosing.contains symbol.name = false then
          definition.textWith s (s.nameTextWithin beyond depth (symbol.name :: enclosing))
        else .error (.unrenderable symbol.name declaration.component .selfReference)

theorem nameTextWithin_eq (beyond : Cpp.Symbol → Except CompileError String) {depth : Nat}
    (enough : s.unvisited enclosing < depth) :
    s.nameTextWithin beyond depth enclosing = s.nameText enclosing := by
  induction depth generalizing enclosing with
  | zero => exact absurd enough (Nat.not_lt_zero _)
  | succ depth ih =>
    funext symbol
    rw [nameTextWithin, nameText]
    cases held : s.find? symbol.name with
    | none => rfl
    | some found =>
      dsimp only
      cases found.definition with
      | none => rfl
      | some definition =>
        dsimp only
        by_cases object : found.symbol.binding ≠ .inline
        · rw [if_pos object, if_pos object]
        · rw [if_neg object, if_neg object]
          by_cases fresh : enclosing.contains symbol.name = false
          · have fewer := unvisited_cons_lt held fresh
            rw [if_pos fresh, dif_pos fresh, ih (by omega)]
          · rw [if_neg fresh, dif_neg fresh]

theorem unvisited_nil_le (s : Symbols) : s.unvisited [] ≤ s.declarations.length := by
  have all := List.countP_le_length (p := fun name => !([] : List String).contains name) (l := s.names)
  rwa [names, List.length_map] at all

end Symbols

namespace Cpp.Expr

/-- Writing out an expression ends: definitions are nested no deeper than there are names. There is a text if
    all names that the expression involves are defined and no inline one is part of its own definition. -/
theorem exists_text_iff (s : Symbols) (e : Expr) :
    (∀ beyond, e.textWith s (s.nameTextWithin beyond (s.declarations.length + 1) []) = e.text s) ∧
    ((∃ text, e.text s = .ok text) ↔ (∀ name, s.Involves e.references name → s.IsDefined name) ∧
      ∀ name, s.Involves e.references name → s.IsInline name →
        ¬Relation.TransGen s.Unfolds name name) := by
  refine ⟨fun beyond => ?_, ?_⟩
  · rw [Symbols.nameTextWithin_eq beyond (Nat.lt_succ_of_le s.unvisited_nil_le), text]
  · rw [text, exists_textWith_iff]
    simp only [Symbols.exists_nameText_iff_unfoldable, Symbols.Unfoldable, List.not_mem_nil, not_false_eq_true, true_and]
    constructor
    · intro unfoldable
      exact ⟨fun name ⟨symbol, mentioned, leads⟩ => (unfoldable symbol mentioned name leads).1,
        fun name ⟨symbol, mentioned, leads⟩ => (unfoldable symbol mentioned name leads).2⟩
    · rintro ⟨defined, acyclic⟩ symbol mentioned inner leads
      exact ⟨defined inner ⟨symbol, mentioned, leads⟩, acyclic inner ⟨symbol, mentioned, leads⟩⟩

end Cpp.Expr

end DeviceConfig
