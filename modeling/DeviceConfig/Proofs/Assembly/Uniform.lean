import DeviceConfig.Proofs.Assembly.Actions
import DeviceConfig.Proofs.Schema.Normalization

/-!
Lists of actions and of conditions are built over one type of argument at any depth: every object they are made of
is of a class template over it, and every lambda takes one argument of it (`Automation.actions_built_over`).
-/

namespace DeviceConfig.Automation

open Build

variable {arg : CppType} {d next : Draft} {related : Value → Cpp.Symbol → Prop} {items : List Value}
  {es : List Cpp.Expr}

/-- What building the items over this type adds to the draft, and the symbols that stand for them. -/
structure BuiltOver (arg : CppType) (related : Value → Cpp.Symbol → Prop) (items : List Value) (d : Draft)
    (symbols : List Cpp.Symbol) (added : Addition) : Prop where
  /-- One object for each item, in order. -/
  each : List.Forall₂ related items symbols
  differ : (symbols.map (·.name)).Nodup
  pointers : ∀ symbol ∈ symbols, symbol.binding = .pointer
  bound : symbols.Sublist added.bound
  /-- What is declared is new, and it is bound if it is no lambda. -/
  free : ∀ name ∈ added.names, name ∉ d.symbols.names
  all : added.bound = added.objects
  instances : ∀ symbol ∈ added.bound, ∃ template ∈ templates, symbol.type = instantiate template arg
  lambdas : ∀ declaration ∈ added.lambdas, ∃ parameter result body,
    declaration.definition = some (.lambda "=" [parameter] result body) ∧ parameter.type = arg

theorem FormsAll.builtOver (forms : FormsAll arg related items d es next) :
    ∃ symbols added, es = symbols.map .reference ∧ next = d.plus added ∧
      BuiltOver arg related items d symbols added := by
  obtain ⟨symbols, codes, same, each, -, added, whole, sits, -, inside⟩ := forms
  have object : ∀ symbol ∈ added.objects, ∃ declaration,
      IsObject arg declaration ∧ declaration.symbol = symbol := by
    intro symbol member
    obtain ⟨declaration, kept, own⟩ := List.mem_map.mp member
    obtain ⟨listed, notInline⟩ := List.mem_filter.mp kept
    exact ⟨declaration, sits.objects _ listed (by simpa using notInline), own⟩
  have names : (symbols.map (·.name)).Sublist added.names := by
    have objectNames : (added.objects.map (·.name)).Sublist added.names := by
      rw [Addition.objects, List.map_map]
      exact List.filter_sublist.map _
    exact (inside.map _).trans objectNames
  refine ⟨symbols, added, same, whole, each, sits.differ.sublist names, fun symbol member => ?_, ?_, sits.free,
    sits.bound, fun symbol member => ?_, fun declaration member => ?_⟩
  · obtain ⟨declaration, isObject, rfl⟩ := object symbol (inside.subset member)
    exact isObject.pointer
  · rwa [sits.bound]
  · rw [sits.bound] at member
    obtain ⟨declaration, isObject, rfl⟩ := object symbol member
    obtain ⟨template, listed, typed, -⟩ := isObject.made
    exact ⟨template, listed, typed⟩
  · obtain ⟨code, -, lambda⟩ := exists_mem_left_of_forall₂ sits.lambdas member
    obtain ⟨parameters, result, body, defined, -, types, -⟩ := lambda.compiled
    obtain ⟨parameter, rfl, typed⟩ := List.map_eq_singleton_iff.mp types
    exact ⟨parameter, result, body, defined, typed⟩

/-- The results of building a list of actions, and of building a list of conditions: one object for each entry, in
    order, and nothing but objects and lambdas over the type of the argument. -/
theorem actions_built_over {node : Node} {value : Value} (path : Path) :
    (Schema.actions.check node = .ok value → (actions arg path value).apply d = (.ok es, next) →
      ∃ items symbols added, value = .list items ∧ es = symbols.map .reference ∧ next = d.plus added ∧
        BuiltOver arg (IsAction arg) items d symbols added) ∧
    (Schema.conditions.check node = .ok value → (conditions arg path value).apply d = (.ok es, next) →
      ∃ items symbols added, value = .list items ∧ es = symbols.map .reference ∧ next = d.plus added ∧
        BuiltOver arg (IsCondition arg) items d symbols added) := by
  constructor
  · intro checked built
    obtain ⟨items, whole, ensures⟩ := (forms_action value).2.1 (Schema.normal_of_check rfl checked) path d
    obtain ⟨symbols, added, parts⟩ := (ensures_iff.mp ensures es next built).builtOver
    exact ⟨items, symbols, added, whole, parts⟩
  · intro checked built
    obtain ⟨items, whole, ensures⟩ := (forms_condition value).2 (Schema.normal_of_check rfl checked) path d
    obtain ⟨symbols, added, parts⟩ := (ensures_iff.mp ensures es next built).builtOver
    exact ⟨items, symbols, added, whole, parts⟩

/-- Waits, and then tells about a positive argument. -/
def greeting : Value := .list [
  .map [("delay", .duration ⟨2000000000⟩)],
  .map [("if", .map [
    ("condition", .map [("lambda", .string "return x > 0;")]),
    ("then", .map [("lambda", .string "greet(x);")])])]]

/-- The greeting as its check leaves it. -/
def checkedGreeting : Value := .list [
  .map [("delay", .duration ⟨2000000000⟩)],
  .map [("if", .map [
    ("condition", .list [.map [("lambda", .lambda "return x > 0;")]]),
    ("then", .list [.map [("lambda", .lambda "greet(x);")]])])]]

/-- Two conditions in one, and the list of it as its check leaves it. -/
def positive : Value := .map [("and", .list [
  .map [("lambda", .string "return x > 0;")], .map [("lambda", .string "return x < 9;")]])]

def checkedPositive : Value := .list [.map [("and", .list [
  .map [("lambda", .lambda "return x > 0;")], .map [("lambda", .lambda "return x < 9;")]])]]

theorem actions_built_over_float :
    (∃ es next items symbols added, checkedGreeting = .list items ∧ es = symbols.map .reference ∧
      (actions .float .root checkedGreeting).apply (.start ⟨"/config", "/config/dev"⟩) = (.ok es, next) ∧
      BuiltOver .float (IsAction .float) items (.start ⟨"/config", "/config/dev"⟩) symbols added) ∧
    ∃ es next items symbols added, checkedPositive = .list items ∧ es = symbols.map .reference ∧
      (conditions .float .root checkedPositive).apply (.start ⟨"/config", "/config/dev"⟩) = (.ok es, next) ∧
      BuiltOver .float (IsCondition .float) items (.start ⟨"/config", "/config/dev"⟩) symbols added := by
  have greets : Schema.actions.check (Node.atRoot greeting) = .ok checkedGreeting := rfl
  have asks : Schema.conditions.check (Node.atRoot positive) = .ok checkedPositive := rfl
  obtain ⟨es, next, run⟩ := exists_apply_of_isOk
    (by decide +kernel : ((actions .float .root checkedGreeting).apply (.start ⟨"/config", "/config/dev"⟩)).1.isOk)
  obtain ⟨others, last, runToo⟩ := exists_apply_of_isOk
    (by decide +kernel :
      ((conditions .float .root checkedPositive).apply (.start ⟨"/config", "/config/dev"⟩)).1.isOk)
  obtain ⟨items, symbols, added, whole, same, -, built⟩ := (actions_built_over .root).1 greets run
  obtain ⟨parts, objects, more, wholeToo, sameToo, -, builtToo⟩ := (actions_built_over .root).2 asks runToo
  exact ⟨⟨es, next, items, symbols, added, whole, same, run, built⟩,
    others, last, parts, objects, more, wholeToo, sameToo, runToo, builtToo⟩

end DeviceConfig.Automation
