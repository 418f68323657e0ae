import DeviceConfig.Automation.Kind
import DeviceConfig.Proofs.Assembly.Additions
import DeviceConfig.Proofs.Lambda.Capture

/-!
The parts that automations are assembled of: objects of class templates over the type of the argument, and lambdas
that take the argument (`Automation.Sits`). Parts that are added one after the other are parts again
(`Automation.Assembles.trans`).
-/

namespace DeviceConfig

namespace Cpp

/-- The name is one of those that are tried for the hint. -/
def IsMadeFrom (hint name : String) : Prop := (toName hint).toList <+: name.toList

theorem prefix_fresh (preferred : String) (taken : List String) :
    preferred.toList <+: (fresh preferred taken).toList := by
  rw [fresh]
  split
  · obtain ⟨n, -, same, -⟩ := @firstFree_eq_numbered preferred taken taken.length 2
    rw [same, toList_numbered]
    exact List.prefix_append _ _
  · exact List.prefix_rfl

end Cpp

namespace Draft

variable {d : Draft} {symbol : Cpp.Symbol}

/-- The symbol is declared, and bound in this way. -/
def Knows (d : Draft) (symbol : Cpp.Symbol) : Prop :=
  ∃ declaration ∈ d.symbols.declarations,
    declaration.symbol.name = symbol.name ∧ declaration.symbol.binding = symbol.binding

/-- The names of the configuration lead to objects. -/
def Clear (d : Draft) : Prop :=
  ∀ name target, Entries.get? name d.symbols.aliases = some target →
    ∃ found, d.symbols.find? target = some found ∧ found.symbol.binding = .pointer

theorem Knows.plus (knows : d.Knows symbol) (added : Addition) : (d.plus added).Knows symbol := by
  obtain ⟨declaration, member, same⟩ := knows
  exact ⟨declaration, List.mem_append_left _ member, same⟩

theorem knows_of_mem {added : Addition} {declaration : Declaration} (member : declaration ∈ added.declarations) :
    (d.plus added).Knows declaration.symbol :=
  ⟨declaration, List.mem_append_right _ member, rfl, rfl⟩

theorem knows_of_find? {name : String} {found : Declaration} (held : d.symbols.find? name = some found) :
    d.Knows found.symbol :=
  ⟨found, List.mem_of_find?_eq_some held, rfl, rfl⟩

theorem Clear.plus (clear : d.Clear) (added : Addition) : (d.plus added).Clear := by
  intro name target leads
  obtain ⟨found, held, pointer⟩ := clear name target leads
  exact ⟨found, Symbols.find?_extend held _, pointer⟩

/-- The expression may stand in the draft where the argument is of this type. -/
structure Fits (d : Draft) (arg : CppType) (e : Cpp.Expr) : Prop where
  known : ∀ symbol ∈ e.references, d.Knows symbol
  types : arg.Known → ∀ type ∈ e.types, type.Known
  plain : e.lambdas = []

end Draft

namespace Lambda

/-- The code of the configuration as a definition, where names lead to objects in this way. -/
def CompilesTo (aliases : Entries String) (source : String) (definition : Cpp.Expr) : Prop :=
  ∃ lambda parameters result body s, read source = .ok lambda ∧
    definition = .lambda "=" parameters result body ∧ s.aliases = aliases ∧
    bodyStatements s (Text.lines lambda.body.toList) = .ok body

end Lambda

namespace ActionKind

/-- The class template of the action. -/
def template : ActionKind → String
  | delay => "DelayAction"
  | lambda => "LambdaAction"
  | branch => "IfAction"
  | turnOn => "switch_::TurnOnAction"
  | turnOff => "switch_::TurnOffAction"
  | toggle => "switch_::ToggleAction"

end ActionKind

namespace ConditionKind

/-- The class template of the condition. -/
def template : ConditionKind → String
  | every => "AndCondition"
  | either => "OrCondition"
  | lambda => "LambdaCondition"
  | isOn | isOff => "switch_::SwitchCondition"

end ConditionKind

namespace Automation

def templates : List String := ActionKind.all.map (·.template) ++ ConditionKind.all.map (·.template)

theorem known_instantiate {template : String} (member : template ∈ templates) {arg : CppType} (known : arg.Known) :
    (instantiate template arg).Known := by
  have listed : ∀ name ∈ templates, name ∈ CppType.vocabulary := by decide
  refine CppType.known_mk (listed _ member) fun other inside => ?_
  rwa [List.mem_singleton.mp inside]

/-- An object of a class template over this type. -/
structure IsObject (arg : CppType) (declaration : Declaration) : Prop where
  pointer : declaration.symbol.binding = .pointer
  defined : declaration.definition.isSome = true
  made : ∃ template ∈ templates, declaration.symbol.type = instantiate template arg ∧
    Cpp.IsMadeFrom (CppType.named template).nameHint declaration.symbol.name

/-- The code of the configuration under a name of its own, with parameters of these types. -/
structure IsLambda (aliases : Entries String) (expected : List CppType) (source : String)
    (declaration : Declaration) : Prop where
  inline : declaration.symbol.binding = .inline
  made : Cpp.IsMadeFrom "lambda" declaration.symbol.name
  compiled : ∃ parameters result body, declaration.definition = some (.lambda "=" parameters result body) ∧
    Lambda.CompilesTo aliases source (.lambda "=" parameters result body) ∧
    parameters.map (·.type) = expected ∧ ∀ type ∈ result, type.Known

/-- The addition is made of objects over the type of the argument and of the lambdas of these codes. -/
structure Sits (arg : CppType) (expected : List CppType) (codes : List String) (d : Draft) (added : Addition) :
    Prop where
  free : ∀ name ∈ added.names, name ∉ d.symbols.names
  differ : added.names.Nodup
  objects : ∀ declaration ∈ added.declarations, declaration.symbol.binding ≠ .inline → IsObject arg declaration
  lambdas : List.Forall₂ (IsLambda d.symbols.aliases expected) codes added.lambdas
  bound : added.bound = added.objects
  fits : ∀ statement ∈ added.statements, (d.plus added).Fits arg statement.expression

variable {arg : CppType} {expected : List CppType} {codes others : List String} {d mid next : Draft}

theorem Fits.plus {e : Cpp.Expr} (fits : d.Fits arg e) (added : Addition) : (d.plus added).Fits arg e :=
  ⟨fun symbol member => (fits.known symbol member).plus added, fits.types, fits.plain⟩

theorem Sits.append {a b : Addition} (first : Sits arg expected codes d a)
    (second : Sits arg expected others (d.plus a) b) : Sits arg expected (codes ++ others) d (a ++ b) := by
  refine ⟨?_, ?_, ?_, ?_, ?_, ?_⟩
  · intro name member
    rw [Addition.names_append] at member
    rcases List.mem_append.mp member with before | later
    · exact first.free name before
    · have free := second.free name later
      rw [Draft.names_plus] at free
      exact fun taken => free (List.mem_append_left _ taken)
  · rw [Addition.names_append, List.nodup_append]
    refine ⟨first.differ, second.differ, fun name before other later same => ?_⟩
    have free := second.free other later
    rw [Draft.names_plus] at free
    exact free (List.mem_append_right _ (same ▸ before))
  · intro declaration member
    rcases List.mem_append.mp member with before | later
    · exact first.objects declaration before
    · exact second.objects declaration later
  · rw [Addition.lambdas_append]
    exact List.rel_append first.lambdas second.lambdas
  · rw [Addition.bound_append, Addition.objects_append, first.bound, second.bound]
  · intro statement member
    rw [Draft.plus_append]
    rcases List.mem_append.mp member with before | later
    · exact Fits.plus (first.fits statement before) b
    · exact second.fits statement later

theorem sits_nil : Sits arg expected [] d ⟨[], []⟩ :=
  ⟨fun _ member => (nomatch member), List.nodup_nil, fun _ member => (nomatch member), .nil, rfl,
    fun _ member => nomatch member⟩

theorem sits_run {e : Cpp.Expr} (fits : d.Fits arg e) : Sits arg expected [] d ⟨[], [.run e]⟩ := by
  refine ⟨fun _ member => (nomatch member), List.nodup_nil, fun _ member => (nomatch member), .nil, rfl,
    fun statement member => ?_⟩
  rw [List.mem_singleton.mp member]
  exact Fits.plus fits _

theorem sits_object {declaration : Declaration} {definition : Cpp.Expr}
    (free : declaration.symbol.name ∉ d.symbols.names) (object : IsObject arg declaration)
    (fits : d.Fits arg definition) :
    Sits arg expected [] d ⟨[declaration], [.bind declaration.symbol definition]⟩ := by
  have notInline : declaration.symbol.binding ≠ .inline := by
    rw [object.pointer]
    decide
  refine ⟨?_, List.nodup_singleton _, ?_, ?_, ?_, ?_⟩
  · intro name member
    rwa [List.mem_singleton.mp member]
  · intro other member _
    rwa [List.mem_singleton.mp member]
  · simp [Addition.lambdas, notInline]
  · simp [Addition.bound, Addition.objects, Cpp.Statement.bound?, notInline]
  · intro statement member
    rw [List.mem_singleton.mp member]
    exact Fits.plus fits _

theorem sits_lambda {declaration : Declaration} {code : String} (free : declaration.symbol.name ∉ d.symbols.names)
    (lambda : IsLambda d.symbols.aliases expected code declaration) :
    Sits arg expected [code] d ⟨[declaration], []⟩ := by
  refine ⟨?_, List.nodup_singleton _, ?_, ?_, ?_, fun _ member => nomatch member⟩
  · intro name member
    rwa [List.mem_singleton.mp member]
  · intro other member notInline
    rw [List.mem_singleton.mp member] at notInline
    exact absurd lambda.inline notInline
  · simpa [Addition.lambdas, lambda.inline] using lambda
  · simp [Addition.bound, Addition.objects, lambda.inline]

/-- The step adds objects over the type of the argument and the lambdas of these codes, each of which is used once,
    in order, unless names of the configuration lead to lambdas. The symbols are among those of the objects. -/
def Assembles (arg : CppType) (expected : List CppType) (codes : List String) (symbols : List Cpp.Symbol)
    (d next : Draft) : Prop :=
  ∃ added, next = d.plus added ∧ Sits arg expected codes d added ∧
    (d.Clear → added.uses = added.lambdas.map (·.symbol.name)) ∧ symbols.Sublist added.objects

namespace Assembles

variable {symbols more : List Cpp.Symbol}

theorem refl : Assembles arg expected [] [] d d :=
  ⟨⟨[], []⟩, by simp [Draft.plus, Symbols.extend], sits_nil, fun _ => rfl, List.nil_sublist _⟩

theorem trans (first : Assembles arg expected codes symbols d mid)
    (second : Assembles arg expected others more mid next) :
    Assembles arg expected (codes ++ others) (symbols ++ more) d next := by
  obtain ⟨a, rfl, sits, used, inside⟩ := first
  obtain ⟨b, rfl, sitsToo, usedToo, insideToo⟩ := second
  refine ⟨a ++ b, (d.plus_append a b).symm, sits.append sitsToo, fun clear => ?_, ?_⟩
  · rw [Addition.uses_append, Addition.lambdas_append, List.map_append, used clear, usedToo (clear.plus a)]
  · rw [Addition.objects_append]
    exact inside.append insideToo

theorem sublist (assembles : Assembles arg expected codes symbols d next) (fewer : more.Sublist symbols) :
    Assembles arg expected codes more d next := by
  obtain ⟨added, same, sits, used, inside⟩ := assembles
  exact ⟨added, same, sits, used, fewer.trans inside⟩

theorem knows {symbol : Cpp.Symbol} (assembles : Assembles arg expected codes symbols d next)
    (known : d.Knows symbol) : next.Knows symbol := by
  obtain ⟨added, rfl, -⟩ := assembles
  exact known.plus added

/-- The resulting symbols are those of objects. -/
theorem objects (assembles : Assembles arg expected codes symbols d next) :
    ∀ symbol ∈ symbols, next.Knows symbol ∧ symbol.binding = .pointer := by
  obtain ⟨added, rfl, sits, -, inside⟩ := assembles
  intro symbol member
  obtain ⟨declaration, kept, rfl⟩ := List.mem_map.mp (inside.subset member)
  obtain ⟨listed, notInline⟩ := List.mem_filter.mp kept
  exact ⟨Draft.knows_of_mem listed, (sits.objects _ listed (by simpa using notInline)).pointer⟩

end Assembles

end Automation

end DeviceConfig
