import DeviceConfig.Automation.Basic
import DeviceConfig.Core.Schema
import DeviceConfig.Proofs.Assembly.Expressions
import DeviceConfig.Switch.Schema

/-!
What building does to whole drafts. Between any two steps a draft is tidy (`Draft.Tidy`), and a step extends it by
lambdas, each of which is used by the statements that come with it (`Draft.Extends`).
-/

namespace DeviceConfig

/-- The types of the objects that have identifiers in configurations. -/
def objectTypes : List CppType :=
  [Core.startupTrigger, Core.shutdownTrigger, Core.loopTrigger, Automation.type, Switch.type, Switch.customType,
    Switch.templateType, Switch.turnOnTrigger, Switch.turnOffTrigger]

namespace Cpp

/-- What names are made from where the user gave none. -/
def hints : List String :=
  "lambda" :: (objectTypes ++ Automation.templates.map CppType.named).map CppType.nameHint

/-- The name is made from one of the hints. -/
def IsGenerated (name : String) : Prop := ∃ hint ∈ hints, IsMadeFrom hint name

theorem isGenerated_fresh {hint : String} (member : hint ∈ hints) (taken : List String) :
    IsGenerated (fresh (toName hint) taken) :=
  ⟨hint, member, prefix_fresh _ _⟩

end Cpp

namespace Symbols

variable {s : Symbols} {changed found : Declaration}

/-- The names that stand for lambdas. -/
def lambdas (s : Symbols) : List Declaration := s.declarations.filter (·.symbol.binding = .inline)

theorem replace_replace {first second : Declaration} (same : first.symbol.name = second.symbol.name) :
    (s.replace first).replace second = s.replace second := by
  rw [replace, replace, replace, List.map_map]
  refine congrArg (fun declarations => { s with declarations := declarations }) (List.map_congr_left ?_)
  intro declaration _
  rw [Function.comp_apply]
  by_cases here : declaration.symbol.name = second.symbol.name <;> simp [here, same]

theorem mem_replace {declaration : Declaration} (member : declaration ∈ (s.replace changed).declarations) :
    declaration = changed ∨ declaration ∈ s.declarations ∧ declaration.symbol.name ≠ changed.symbol.name := by
  obtain ⟨before, held, rfl⟩ := List.mem_map.mp member
  by_cases same : before.symbol.name = changed.symbol.name
  · rw [if_pos (beq_iff_eq.mpr same)]
    exact .inl rfl
  · rw [if_neg (mt beq_iff_eq.mp same)]
    exact .inr ⟨held, same⟩

theorem mem_replace_self (held : s.find? changed.symbol.name = some found) :
    changed ∈ (s.replace changed).declarations := by
  refine List.mem_map.mpr ⟨found, List.mem_of_find?_eq_some held, ?_⟩
  rw [if_pos (beq_iff_eq.mpr (name_of_find? held))]

theorem eq_of_name (differ : s.names.Nodup) (held : s.find? changed.symbol.name = some found)
    {declaration : Declaration} (member : declaration ∈ s.declarations)
    (same : declaration.symbol.name = changed.symbol.name) : declaration = found := by
  have own := find?_of_mem differ member
  rw [same] at own
  exact Option.some.inj (own.symm.trans held)

theorem lambdas_replace (differ : s.names.Nodup) (held : s.find? changed.symbol.name = some found)
    (kind : changed.symbol.binding = found.symbol.binding) :
    (s.replace changed).lambdas = s.lambdas.map fun declaration =>
      if declaration.symbol.name == changed.symbol.name then changed else declaration := by
  rw [lambdas, lambdas, replace, List.filter_map]
  refine congrArg _ (List.filter_congr fun declaration member => ?_)
  rw [Function.comp_apply]
  by_cases same : declaration.symbol.name = changed.symbol.name
  · rw [if_pos (beq_iff_eq.mpr same), kind, eq_of_name differ held member same]
  · rw [if_neg (mt beq_iff_eq.mp same)]

theorem lambdas_replace_object (differ : s.names.Nodup) (held : s.find? changed.symbol.name = some found)
    (kind : changed.symbol.binding = found.symbol.binding) (object : found.symbol.binding ≠ .inline) :
    (s.replace changed).lambdas = s.lambdas := by
  rw [lambdas_replace differ held kind]
  refine (List.map_congr_left fun declaration member => ?_).trans (List.map_id _)
  obtain ⟨listed, inline⟩ := List.mem_filter.mp member
  refine if_neg fun same => object ?_
  rw [← eq_of_name differ held listed (beq_iff_eq.mp same)]
  exact of_decide_eq_true inline

end Symbols

namespace Draft

/-- The names of lambdas in the statements, as often as they are mentioned. -/
def uses (d : Draft) : List String := d.statements.flatMap Cpp.Statement.uses

/-- What holds between any two steps, where the user declared the names `users`. -/
structure Tidy (users : List String) (d : Draft) : Prop where
  differ : d.symbols.names.Nodup
  aliases : ∀ name, Entries.get? name d.symbols.aliases = if name ∈ users then some name else none
  declared : ∀ name ∈ users, ∃ found, d.symbols.find? name = some found ∧ found.symbol.binding = .pointer
  typed : ∀ declaration ∈ d.symbols.declarations, declaration.symbol.binding ≠ .inline →
    declaration.symbol.type.Known
  inner : ∀ declaration ∈ d.symbols.lambdas, ∀ definition, declaration.definition = some definition →
    ∀ type ∈ definition.types, type.Known
  fits : ∀ statement ∈ d.statements, ∀ arg, d.Fits arg statement.expression

/-- The second draft has these lambdas besides those of the first, and its further statements mention these names
    of lambdas. -/
structure Extends (users : List String) (added : List Declaration) (used : List String) (d next : Draft) :
    Prop where
  tidy : next.Tidy users
  aliases : next.symbols.aliases = d.symbols.aliases
  knows : ∀ symbol, d.Knows symbol → next.Knows symbol
  names : ∀ name ∈ next.symbols.names, name ∈ d.symbols.names ∨ Cpp.IsGenerated name
  lambdas : next.symbols.lambdas = d.symbols.lambdas ++ added
  uses : next.uses = d.uses ++ used

variable {users : List String} {d next last : Draft}

theorem Tidy.clear (tidy : d.Tidy users) : d.Clear := by
  intro name target leads
  rw [tidy.aliases] at leads
  split at leads
  · cases leads
    exact tidy.declared name ‹_›
  · cases leads

theorem Fits.any {arg : CppType} {e : Cpp.Expr} (fits : d.Fits arg e) (known : arg.Known) (other : CppType) :
    d.Fits other e :=
  ⟨fits.known, fun _ => fits.types known, fits.plain⟩

theorem Fits.mono {arg : CppType} {e : Cpp.Expr} (fits : d.Fits arg e)
    (knows : ∀ symbol, d.Knows symbol → next.Knows symbol) : next.Fits arg e :=
  ⟨fun symbol member => knows symbol (fits.known symbol member), fits.types, fits.plain⟩

theorem Knows.replace {symbol : Cpp.Symbol} (known : d.Knows symbol) (differ : d.symbols.names.Nodup)
    {changed found : Declaration} (held : d.symbols.find? changed.symbol.name = some found)
    (kind : changed.symbol.binding = found.symbol.binding)
    (same : next.symbols = d.symbols.replace changed) : next.Knows symbol := by
  obtain ⟨declaration, member, named, bound⟩ := known
  rw [Knows, same]
  by_cases here : declaration.symbol.name = changed.symbol.name
  · obtain rfl := Symbols.eq_of_name differ held member here
    exact ⟨changed, Symbols.mem_replace_self held, here.symm.trans named, kind.trans bound⟩
  · refine ⟨declaration, List.mem_map.mpr ⟨declaration, member, ?_⟩, named, bound⟩
    rw [if_neg (mt beq_iff_eq.mp here)]

namespace Extends

variable {added others : List Declaration} {used more : List String}

theorem refl (tidy : d.Tidy users) : Extends users [] [] d d :=
  ⟨tidy, rfl, fun _ => id, fun _ => .inl, (List.append_nil _).symm, (List.append_nil _).symm⟩

theorem trans (first : Extends users added used d next) (second : Extends users others more next last) :
    Extends users (added ++ others) (used ++ more) d last := by
  refine ⟨second.tidy, second.aliases.trans first.aliases, fun symbol knows => ?_, fun name member => ?_,
    ?_, ?_⟩
  · exact second.knows symbol (first.knows symbol knows)
  · exact (second.names name member).elim (first.names name) .inr
  · rw [second.lambdas, first.lambdas, List.append_assoc]
  · rw [second.uses, first.uses, List.append_assoc]

end Extends

theorem Tidy.keep (tidy : d.Tidy users) (declarations : next.symbols.declarations = d.symbols.declarations)
    (aliases : next.symbols.aliases = d.symbols.aliases) (statements : next.statements = d.statements) :
    Extends users [] [] d next := by
  obtain ⟨⟨ds, as, component⟩, sts, metadata, paths⟩ := d
  obtain ⟨⟨ds', as', component'⟩, sts', metadata', paths'⟩ := next
  cases declarations
  cases aliases
  cases statements
  have unchanged : Tidy users ⟨⟨ds, as, component'⟩, sts, metadata', paths'⟩ := by
    refine ⟨tidy.differ, tidy.aliases, tidy.declared, tidy.typed, tidy.inner, fun statement member arg => ?_⟩
    exact (tidy.fits statement member arg).mono fun _ => id
  exact ⟨unchanged, rfl, fun _ => id, fun _ => .inl, (List.append_nil _).symm, (List.append_nil _).symm⟩

/-- Declarations and statements are added at the end. -/
theorem Tidy.plus (tidy : d.Tidy users) {added : Addition} (free : ∀ name ∈ added.names, name ∉ d.symbols.names)
    (differ : added.names.Nodup)
    (typed : ∀ declaration ∈ added.declarations, declaration.symbol.binding ≠ .inline →
      declaration.symbol.type.Known)
    (inner : ∀ declaration ∈ added.lambdas, ∀ definition, declaration.definition = some definition →
      ∀ type ∈ definition.types, type.Known)
    (generated : ∀ name ∈ added.names, Cpp.IsGenerated name)
    (fits : ∀ statement ∈ added.statements, ∀ arg, (d.plus added).Fits arg statement.expression) :
    Extends users added.lambdas added.uses d (d.plus added) := by
  have lambdas : (d.plus added).symbols.lambdas = d.symbols.lambdas ++ added.lambdas := List.filter_append ..
  have knows : ∀ symbol, d.Knows symbol → (d.plus added).Knows symbol := fun _ known => known.plus added
  refine ⟨⟨?_, tidy.aliases, fun name member => ?_, fun declaration member => ?_, fun declaration member => ?_,
    fun statement member arg => ?_⟩, rfl, knows, fun name member => ?_, lambdas, List.flatMap_append⟩
  · rw [names_plus, List.nodup_append]
    exact ⟨tidy.differ, differ, fun name before other later same => free other later (same ▸ before)⟩
  · obtain ⟨found, held, pointer⟩ := tidy.declared name member
    exact ⟨found, Symbols.find?_extend held _, pointer⟩
  · exact (List.mem_append.mp member).elim (tidy.typed declaration) (typed declaration)
  · rw [lambdas] at member
    exact (List.mem_append.mp member).elim (tidy.inner declaration) (inner declaration)
  · rcases List.mem_append.mp member with before | later
    · exact (tidy.fits statement before arg).mono knows
    · exact fits statement later arg
  · rw [names_plus] at member
    exact (List.mem_append.mp member).imp id (generated name)

/-- An object of the user is declared anew, and there is a statement that binds it. -/
theorem Tidy.rebind (tidy : d.Tidy users) {changed found : Declaration} {symbol : Cpp.Symbol}
    {definition : Cpp.Expr} (held : d.symbols.find? changed.symbol.name = some found)
    (pointer : found.symbol.binding = .pointer) (kind : changed.symbol.binding = .pointer) (typed : changed.symbol.type.Known)
    (fits : ∀ arg, d.Fits arg definition) :
    Extends users [] definition.uses d
      { d with
        symbols := d.symbols.replace changed
        statements := d.statements ++ [.bind symbol definition] } := by
  have same : changed.symbol.binding = found.symbol.binding := kind.trans pointer.symm
  have object : found.symbol.binding ≠ .inline := by
    rw [pointer]
    decide
  have lambdas := Symbols.lambdas_replace_object tidy.differ held same object
  let next : Draft :=
    { d with symbols := d.symbols.replace changed, statements := d.statements ++ [.bind symbol definition] }
  have knows : ∀ symbol, d.Knows symbol → next.Knows symbol :=
    fun symbol known => known.replace tidy.differ held same rfl
  refine ⟨⟨?_, tidy.aliases, fun name member => ?_, fun declaration member => ?_, ?_,
    fun statement member arg => ?_⟩, rfl, knows, fun name member => ?_, ?_, ?_⟩
  · rw [Symbols.names_replace]
    exact tidy.differ
  · obtain ⟨other, own, kindToo⟩ := tidy.declared name member
    rw [Symbols.find?_replace]
    by_cases here : name = changed.symbol.name
    · rw [if_pos here, own]
      exact ⟨changed, rfl, kind⟩
    · rw [if_neg here]
      exact ⟨other, own, kindToo⟩
  · rcases Symbols.mem_replace member with rfl | ⟨before, -⟩
    · exact fun _ => typed
    · exact tidy.typed declaration before
  · rw [lambdas]
    exact tidy.inner
  · rcases List.mem_append.mp member with before | last
    · exact (tidy.fits statement before arg).mono knows
    · rw [List.mem_singleton.mp last]
      exact (fits arg).mono knows
  · rw [Symbols.names_replace] at member
    exact .inl member
  · rw [lambdas, List.append_nil]
  · rw [Draft.uses, List.flatMap_append, List.flatMap_singleton]
    rfl

/-- A lambda that waited for its definition gets it. -/
theorem Extends.define {declared changed : Declaration} {used : List String}
    (extends_ : Extends users [declared] used d next) (same : changed.symbol = declared.symbol)
    (inline : declared.symbol.binding = .inline)
    (inner : ∀ definition, changed.definition = some definition → ∀ type ∈ definition.types, type.Known) :
    Extends users [changed] used d { next with symbols := next.symbols.replace changed } := by
  obtain ⟨tidy, aliases, knows, names, lambdas, uses⟩ := extends_
  have listed : declared ∈ next.symbols.lambdas := by
    rw [lambdas]
    exact List.mem_append_right _ List.mem_cons_self
  have held : next.symbols.find? changed.symbol.name = some declared := by
    rw [same]
    exact Symbols.find?_of_mem tidy.differ (List.mem_filter.mp listed).1
  have kind : changed.symbol.binding = declared.symbol.binding := by rw [same]
  -- the lambdas of the first draft have other names
  have others : ∀ declaration ∈ d.symbols.lambdas, declaration.symbol.name ≠ changed.symbol.name := by
    have differ : (next.symbols.lambdas.map (·.symbol.name)).Nodup :=
      tidy.differ.sublist (List.filter_sublist.map _)
    rw [lambdas, List.map_append, List.nodup_append] at differ
    intro declaration member equal
    refine differ.2.2 _ (List.mem_map_of_mem member) declared.symbol.name List.mem_cons_self ?_
    rw [equal, same]
  have lambdasLater : (next.symbols.replace changed).lambdas = d.symbols.lambdas ++ [changed] := by
    rw [Symbols.lambdas_replace tidy.differ held kind, lambdas, List.map_append, List.map_singleton,
      if_pos (beq_iff_eq.mpr (by rw [same]))]
    refine congrArg (· ++ [changed]) ((List.map_congr_left fun declaration member => ?_).trans (List.map_id _))
    exact if_neg (mt beq_iff_eq.mp (others declaration member))
  let last : Draft := { next with symbols := next.symbols.replace changed }
  have knowsLater : ∀ symbol, next.Knows symbol → last.Knows symbol :=
    fun symbol known => known.replace tidy.differ held kind rfl
  refine ⟨⟨?_, tidy.aliases, fun name member => ?_, fun declaration member => ?_, fun declaration member => ?_,
    fun statement member arg => ?_⟩, aliases, fun symbol known => knowsLater symbol (knows symbol known),
    fun name member => ?_, lambdasLater, uses⟩
  · rw [Symbols.names_replace]
    exact tidy.differ
  · obtain ⟨found, own, pointer⟩ := tidy.declared name member
    have other : name ≠ changed.symbol.name := by
      rintro rfl
      cases held.symm.trans own
      cases inline.symm.trans pointer
    rw [Symbols.find?_replace, if_neg other]
    exact ⟨found, own, pointer⟩
  · rcases Symbols.mem_replace member with rfl | ⟨before, -⟩
    · exact fun object => absurd (kind.trans inline) object
    · exact tidy.typed declaration before
  · rw [lambdasLater] at member
    rcases List.mem_append.mp member with before | new
    · refine tidy.inner declaration ?_
      rw [lambdas]
      exact List.mem_append_left _ before
    · rw [List.mem_singleton.mp new]
      exact inner
  · exact (tidy.fits statement member arg).mono knowsLater
  · rw [Symbols.names_replace] at member
    exact names name member

end Draft

end DeviceConfig
