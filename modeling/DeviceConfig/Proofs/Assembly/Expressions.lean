import DeviceConfig.Proofs.Assembly.Lambdas

/-!
Expressions that fit into a draft, and steps that add what is made of them.
-/

namespace DeviceConfig

namespace Cpp

theorem argReferences_eq (args : List Expr) : argReferences args = args.flatMap Expr.references := by
  induction args with
  | nil => rfl
  | cons arg rest ih => rw [argReferences, ih, List.flatMap_cons]

theorem argTypes_eq (args : List Expr) : argTypes args = args.flatMap Expr.types := by
  induction args with
  | nil => rfl
  | cons arg rest ih => rw [argTypes, ih, List.flatMap_cons]

theorem argLambdas_eq (args : List Expr) : argLambdas args = args.flatMap Expr.lambdas := by
  induction args with
  | nil => rfl
  | cons arg rest ih => rw [argLambdas, ih, List.flatMap_cons]

end Cpp

namespace Draft

variable {d : Draft} {arg : CppType} {e object : Cpp.Expr} {args : List Cpp.Expr}

theorem fits_of_nil (references : e.references = []) (types : e.types = []) (plain : e.lambdas = []) :
    d.Fits arg e := by
  refine ⟨?_, ?_, plain⟩
  · rw [references]
    exact fun _ member => nomatch member
  · rw [types]
    exact fun _ _ member => nomatch member

theorem fits_reference {symbol : Cpp.Symbol} (knows : d.Knows symbol) : d.Fits arg (.reference symbol) :=
  ⟨fun _ member => List.mem_singleton.mp member ▸ knows, fun _ _ member => (nomatch member), rfl⟩

theorem fits_of_args (references : e.references = Cpp.argReferences args)
    (types : ∀ type ∈ e.types, (arg.Known → type.Known) ∨ type ∈ Cpp.argTypes args)
    (lambdas : e.lambdas = Cpp.argLambdas args) (each : ∀ part ∈ args, d.Fits arg part) : d.Fits arg e := by
  refine ⟨?_, ?_, ?_⟩
  · intro symbol member
    rw [references, Cpp.argReferences_eq] at member
    obtain ⟨part, inside, mentioned⟩ := List.mem_flatMap.mp member
    exact (each part inside).known symbol mentioned
  · intro known type member
    rcases types type member with own | inArgs
    · exact own known
    · rw [Cpp.argTypes_eq] at inArgs
      obtain ⟨part, inside, written⟩ := List.mem_flatMap.mp inArgs
      exact (each part inside).types known type written
  · rw [lambdas, Cpp.argLambdas_eq]
    exact List.flatMap_eq_nil_iff.mpr fun part inside => (each part inside).plain

theorem fits_allocate {type : CppType} (typed : arg.Known → type.Known) (each : ∀ part ∈ args, d.Fits arg part) :
    d.Fits arg (.allocate type args) := by
  refine fits_of_args rfl (fun other member => ?_) rfl each
  rcases List.mem_cons.mp member with rfl | inArgs
  · exact .inl typed
  · exact .inr inArgs

theorem fits_aggregate (each : ∀ part ∈ args, d.Fits arg part) : d.Fits arg (.aggregate args) :=
  fits_of_args rfl (fun _ => .inr) rfl each

theorem fits_method {name : String} {typeArgs : List CppType} (fits : d.Fits arg object)
    (typed : arg.Known → ∀ type ∈ typeArgs, type.Known) (each : ∀ part ∈ args, d.Fits arg part) :
    d.Fits arg (object.method name typeArgs args) := by
  have parts : (object.method name typeArgs args).references = Cpp.argReferences (object :: args) := rfl
  refine fits_of_args parts (fun type member => ?_) rfl fun part member => ?_
  · rcases List.mem_append.mp member with front | inArgs
    · rcases List.mem_append.mp front with inObject | own
      · exact .inr (List.mem_append_left _ inObject)
      · exact .inl fun known => typed known type own
    · exact .inr (List.mem_append_right _ inArgs)
  · rcases List.mem_cons.mp member with rfl | inArgs
    · exact fits
    · exact each part inArgs

theorem fits_call {name : String} (fits : d.Fits arg object) (each : ∀ part ∈ args, d.Fits arg part) :
    d.Fits arg (object.call name args) :=
  fits_method fits (fun _ _ member => nomatch member) each

theorem fits_single (fits : d.Fits arg e) : ∀ part ∈ [e], d.Fits arg part :=
  fun _ member => List.mem_singleton.mp member ▸ fits

/-- Objects that are known, listed in braces. -/
theorem fits_symbols {symbols : List Cpp.Symbol} (knows : ∀ symbol ∈ symbols, d.Knows symbol) :
    d.Fits arg (.aggregate (symbols.map .reference)) := by
  refine fits_aggregate fun part member => ?_
  obtain ⟨symbol, inside, rfl⟩ := List.mem_map.mp member
  exact fits_reference (knows symbol inside)

end Draft

namespace Cpp

variable {symbol : Symbol} {object : Expr} {args : List Expr}

theorem uses_pointer (pointer : symbol.binding = .pointer) : (Expr.reference symbol).uses = [] := by
  simp [Expr.uses, Expr.references, inlineNames, pointer]

theorem uses_inline (inline : symbol.binding = .inline) : (Expr.reference symbol).uses = [symbol.name] := by
  simp [Expr.uses, Expr.references, inlineNames, inline]

theorem uses_args (args : List Expr) : inlineNames (argReferences args) = args.flatMap Expr.uses := by
  induction args with
  | nil => rfl
  | cons arg rest ih => rw [argReferences, inlineNames_append, ih, List.flatMap_cons, Expr.uses]

theorem uses_method (name : String) (typeArgs : List CppType) :
    (object.method name typeArgs args).uses = object.uses ++ args.flatMap Expr.uses := by
  rw [← uses_args]
  exact inlineNames_append _ _

theorem uses_allocate (type : CppType) : (Expr.allocate type args).uses = args.flatMap Expr.uses := uses_args args

/-- Where a lambda is the one argument, it is all that is used. -/
theorem uses_allocate_inline (type : CppType) (inline : symbol.binding = .inline) :
    (Expr.allocate type [.reference symbol]).uses = [symbol.name] := by
  rw [uses_allocate, List.flatMap_singleton, uses_inline inline]

theorem uses_call_inline (name : String) (unused : object.uses = []) (inline : symbol.binding = .inline) :
    (object.call name [.reference symbol]).uses = [symbol.name] := by
  rw [Expr.call, uses_method, unused, List.flatMap_singleton, uses_inline inline, List.nil_append]

theorem uses_aggregate : (Expr.aggregate args).uses = args.flatMap Expr.uses := uses_args args

theorem uses_symbols {symbols : List Symbol} (pointers : ∀ symbol ∈ symbols, symbol.binding = .pointer) :
    (Expr.aggregate (symbols.map .reference)).uses = [] := by
  rw [uses_aggregate, List.flatMap_map]
  exact List.flatMap_eq_nil_iff.mpr fun symbol member => uses_pointer (pointers symbol member)

end Cpp

namespace Automation

open Build Draft

variable {arg : CppType} {expected : List CppType} {uses : List String} {symbols : List Cpp.Symbol}
  {d next : Draft}

/-- The step adds these objects but no lambdas, and mentions these names of lambdas. -/
def Adds (arg : CppType) (expected : List CppType) (uses : List String) (symbols : List Cpp.Symbol)
    (d next : Draft) : Prop :=
  ∃ added, next = d.plus added ∧ Sits arg expected [] d added ∧ added.uses = uses ∧ added.objects = symbols

theorem Adds.assembles (adds : Adds arg expected uses symbols d next) (unused : d.Clear → uses = []) :
    Assembles arg expected [] symbols d next := by
  obtain ⟨added, same, sits, mentioned, objects⟩ := adds
  have none : added.lambdas = [] := List.forall₂_nil_left_iff.mp sits.lambdas
  refine ⟨added, same, sits, fun clear => ?_, objects ▸ List.Sublist.refl _⟩
  rw [none, mentioned, unused clear]
  rfl

/-- A lambda is compiled and then used. -/
theorem Adds.afterLambda {declaration : Declaration} {code : String}
    (adds : Adds arg expected uses symbols (d.plus ⟨[declaration], []⟩) next)
    (free : declaration.symbol.name ∉ d.symbols.names)
    (lambda : IsLambda d.symbols.aliases expected code declaration)
    (used : d.Clear → uses = [declaration.symbol.name]) : Assembles arg expected [code] symbols d next := by
  obtain ⟨added, same, sits, mentioned, objects⟩ := adds
  have none : added.lambdas = [] := List.forall₂_nil_left_iff.mp sits.lambdas
  have whole := (sits_lambda free lambda).append sits
  rw [List.append_nil] at whole
  refine ⟨⟨[declaration], []⟩ ++ added, ?_, whole, fun clear => ?_, ?_⟩
  · rw [Draft.plus_append, same]
  · rw [Addition.uses_append, Addition.lambdas_append, none, mentioned, used clear]
    simp [Addition.uses, Addition.lambdas, lambda.inline]
  · rw [Addition.objects_append, objects]
    exact List.sublist_append_right _ _

theorem ensures_evaluate (expected : List CppType) {e : Cpp.Expr} (fits : d.Fits arg e) :
    Ensures (evaluate e) d fun _ next => Adds arg expected e.uses [] d next :=
  yields_of_apply (apply_evaluate d e) ⟨_, rfl, sits_run fits, List.append_nil _, rfl⟩

theorem ensures_bindNew (expected : List CppType) {template : String} {definition : Cpp.Expr}
    (listed : template ∈ templates) (fits : d.Fits arg definition) :
    Ensures (bindNew template arg definition) d fun e next => ∃ symbol, e = .reference symbol ∧
      symbol.type = instantiate template arg ∧ Adds arg expected definition.uses [symbol] d next := by
  let symbol := (d.symbols.declare (CppType.named template).nameHint (instantiate template arg) .pointer).1
  have free : symbol.name ∉ d.symbols.names := Symbols.notMem_names_declare _ _ _ _
  have object : IsObject arg ⟨symbol, some definition, d.symbols.component⟩ :=
    ⟨rfl, rfl, template, listed, rfl, Cpp.prefix_fresh _ _⟩
  refine yields_of_apply (apply_bindNew d template arg definition) ⟨symbol, rfl, rfl, _, rfl, ?_, ?_, rfl⟩
  · exact sits_object free object fits
  · exact List.append_nil _

end Automation

end DeviceConfig
