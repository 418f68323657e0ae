import DeviceConfig.Proofs.Generation.Lambdas
import DeviceConfig.Proofs.Program.History
import Mathlib

/-!
References that are captured. A body refers to objects by the names they are registered with, so a parameter of the
same name stands in the way: just the lambdas whose parameters are named like an object that they mention capture it
(`captures_iff`).
-/

namespace DeviceConfig.Lambda

open Build Text

/-- A reference of the body has the name of a parameter, and so means the parameter. -/
def Captures (parameters : List Cpp.Parameter) (body : List Cpp.Statement) : Prop :=
  ∃ p ∈ parameters, ∃ symbol ∈ Cpp.bodyReferences body, symbol.name = p.name

section Bodies

variable {s : Symbols}

theorem name_of_resolve {name : String} {symbol : Cpp.Symbol} (resolved : s.resolve name = .ok symbol) :
    Entries.get? name s.aliases = some symbol.name := by
  rw [Symbols.resolve] at resolved
  split at resolved
  · rename_i found held
    cases resolved
    obtain ⟨target, leads, here⟩ := Option.bind_eq_some_iff.mp held
    rw [leads, Symbols.name_of_find? here]
  · cases resolved

/-- A symbol of a resolved body has the name that a mention of the body is registered with. -/
def Registered (s : Symbols) (names : List String) (references : List Cpp.Symbol) : Prop :=
  List.Forall₂ (fun name symbol => Entries.get? name s.aliases = some symbol.name) names references

theorem fragmentExpr_registered {fragment : Fragment} {expr : Cpp.Expr} (resolved : fragmentExpr s fragment = .ok expr) :
    Registered s fragment.name?.toList expr.references := by
  cases fragment with
  | text chars =>
    cases resolved
    exact .nil
  | object name access =>
    obtain ⟨symbol, found, same⟩ := bind_eq_ok_iff.mp resolved
    cases same
    cases access <;> exact .cons (name_of_resolve found) .nil

theorem fragmentExprs_registered {fragments : List Fragment} {exprs : List Cpp.Expr}
    (resolved : fragmentExprs s fragments = .ok exprs) :
    Registered s (fragments.filterMap Fragment.name?) (Cpp.argReferences exprs) := by
  induction fragments generalizing exprs with
  | nil =>
    cases resolved
    exact .nil
  | cons fragment rest ih =>
    obtain ⟨expr, here, later⟩ := bind_eq_ok_iff.mp resolved
    obtain ⟨exprs, others, same⟩ := bind_eq_ok_iff.mp later
    cases same
    rw [filterMap_name?_cons]
    exact List.rel_append (fragmentExpr_registered here) (ih others)

theorem bodyStatements_registered {lines : List (List Char)} {body : List Cpp.Statement}
    (resolved : bodyStatements s lines = .ok body) : Registered s (bodyNames lines) (Cpp.bodyReferences body) := by
  induction lines generalizing body with
  | nil =>
    cases resolved
    exact .nil
  | cons line rest ih =>
    obtain ⟨parts, here, later⟩ := bind_eq_ok_iff.mp resolved
    obtain ⟨statements, others, same⟩ := bind_eq_ok_iff.mp later
    cases same
    rw [bodyNames, List.flatMap_cons]
    exact List.rel_append (fragmentExprs_registered here) (ih others)

end Bodies

section Steps

variable {source : String} {path : Path} {expected : List Cpp.Parameter} {result : Option CppType}
  {pending : Pending} {d next : Draft}

/-- The parameters of a lambda where others are expected. -/
def parametersAt (lambda : Lambda) (expected : List Cpp.Parameter) : List Cpp.Parameter :=
  lambda.header.elim expected (·.parameters)

theorem parameters_of_headerAt {written : Option Header} {header : Header}
    (fits : headerAt path expected result written = .ok header) :
    header.parameters = written.elim expected (·.parameters) := by
  cases written with
  | none =>
    cases fits
    rfl
  | some written =>
    rw [headerAt] at fits
    split at fits
    · cases fits
      rfl
    · cases fits

theorem declare_gives (declared : (declare source path expected result).apply d = (.ok pending, next)) :
    ∃ lambda, read source = .ok lambda ∧ pending.parameters = parametersAt lambda expected ∧
      pending.body = lambda.body := by
  rw [declare] at declared
  split at declared
  · cases declared
  · rename_i header body whole
    rw [readAt] at whole
    split at whole
    · cases whole
    · rename_i lambda accepted
      obtain ⟨header', fits, same⟩ := bind_eq_ok_iff.mp whole
      cases same
      rw [apply_bind] at declared
      cases declared
      exact ⟨lambda, accepted, parameters_of_headerAt fits, rfl⟩

theorem define_gives {e : Cpp.Expr} (defined : pending.define.apply d = (.ok e, next)) :
    ∃ body found, bodyStatements d.symbols (lines pending.body.toList) = .ok body ∧
      next.symbols.find? pending.symbol.name = some found ∧
      found.definition = some (.lambda "=" pending.parameters pending.result body) := by
  rw [Pending.define, apply_bind, apply_ofSymbols] at defined
  cases resolved : bodyStatements d.symbols (lines pending.body.toList) with
  | error e =>
    rw [resolved] at defined
    cases defined
  | ok body =>
    rw [resolved] at defined
    simp only [apply_bind, Build.define, apply_ofSymbols] at defined
    cases done : d.symbols.define pending.symbol (.lambda "=" pending.parameters pending.result body) with
    | error e =>
      rw [done] at defined
      cases defined
    | ok symbols =>
      rw [done] at defined
      cases defined
      obtain ⟨found, -, -, now⟩ := Symbols.find?_define done
      exact ⟨body, _, rfl, now, rfl⟩

theorem apply_declare {source : String} {path : Path} {expected : List Cpp.Parameter} {result : Option CppType}
    {header : Header} {body : String} (fits : readAt source path expected result = .ok (header, body)) (d : Draft) :
    (declare source path expected result).apply d =
      (.ok ⟨(d.symbols.declare "lambda" type .inline).1, header.parameters, header.result, body⟩,
        { d with symbols := (d.symbols.declare "lambda" type .inline).2 }) := by
  rw [declare, fits]
  rfl

theorem apply_defineLambda {pending : Pending} {d : Draft} {body : List Cpp.Statement} {symbols : Symbols}
    (resolved : bodyStatements d.symbols (lines pending.body.toList) = .ok body)
    (done : d.symbols.define pending.symbol (.lambda "=" pending.parameters pending.result body) = .ok symbols) :
    pending.define.apply d = (.ok pending.reference, { d with symbols := symbols }) := by
  simp only [Pending.define, apply_bind, apply_ofSymbols, resolved, Build.define, done]
  rfl

theorem captures_iff_of_registered (parameters : List Cpp.Parameter) {s : Symbols} {names : List String}
    {body : List Cpp.Statement} (registered : Registered s names (Cpp.bodyReferences body)) :
    Captures parameters body ↔
      ∃ p ∈ parameters, ∃ name ∈ names, Entries.get? name s.aliases = some p.name := by
  constructor
  · rintro ⟨p, member, symbol, mentioned, same⟩
    obtain ⟨name, inside, leads⟩ := exists_mem_left_of_forall₂ registered mentioned
    exact ⟨p, member, name, inside, same ▸ leads⟩
  · rintro ⟨p, member, name, inside, leads⟩
    obtain ⟨symbol, mentioned, same⟩ := exists_mem_right_of_forall₂ registered inside
    exact ⟨p, member, symbol, mentioned, Option.some.inj (same.symm.trans leads)⟩

end Steps

section Shadowed

/-- A program with one switch. -/
def relayDraft : Draft :=
  ((Build.declareObject (.declared "relay" (.named "switch_::Switch")) .pointer).apply (.start ⟨"", ""⟩)).2

/-- A lambda with a parameter that is named like the switch. -/
def relayCode : String := "(float relay) -> bool \x7b return id(relay).state; \x7d"

theorem readAt_relayCode : readAt relayCode .root [⟨"x", .float⟩] (some .bool) =
    .ok (⟨[⟨"relay", .float⟩], some .bool⟩, "return id(relay).state;") := by
  cbv

theorem bodyStatements_relay :
    bodyStatements (relayDraft.symbols.declare "lambda" type .inline).2 (lines "return id(relay).state;".toList) =
      .ok [.line (.concat [.raw "return ", .member (.reference ⟨"relay", .named "switch_::Switch", .pointer⟩) "", .raw "state;"])] := by
  cbv

theorem exists_steps_relayCode :
    ∃ pending between e last,
      (declare relayCode .root [⟨"x", .float⟩] (some .bool)).apply relayDraft = (.ok pending, between) ∧
        pending.define.apply between = (.ok e, last) ∧ pending.parameters = [⟨"relay", .float⟩] ∧
        pending.body = "return id(relay).state;" ∧ Entries.get? "relay" between.symbols.aliases = some "relay" := by
  have declared := apply_declare readAt_relayCode relayDraft
  have defined (definition : Cpp.Expr) : ∃ symbols,
      (relayDraft.symbols.declare "lambda" type .inline).2.define ⟨"lambda", type, .inline⟩ definition = .ok symbols :=
    ⟨_, rfl⟩
  obtain ⟨symbols, done⟩ := defined _
  exact ⟨_, _, _, _, declared, apply_defineLambda bodyStatements_relay done, rfl, rfl, rfl⟩

end Shadowed

/-- A lambda that was declared and then defined, whatever happened between, captures a reference just if one of its
    parameters has the name that a mentioned object is registered with. Parameters that nobody wrote have reserved
    names, which no object of a configuration is registered with; so it takes a header to capture one. -/
theorem captures_iff {source : String} {path : Path} {expected : List Cpp.Parameter} {result : Option CppType}
    {pending : Pending} {e : Cpp.Expr} {d between later last : Draft}
    (declared : (declare source path expected result).apply d = (.ok pending, between))
    (defined : pending.define.apply later = (.ok e, last)) :
    ∃ lambda body found, read source = .ok lambda ∧ pending.parameters = parametersAt lambda expected ∧
      last.symbols.find? pending.symbol.name = some found ∧
      found.definition = some (.lambda "=" pending.parameters pending.result body) ∧
      (Captures pending.parameters body ↔
        ∃ p ∈ pending.parameters, ∃ name ∈ mentions source, Entries.get? name later.symbols.aliases = some p.name) ∧
      ((∀ p ∈ expected, Cpp.isReserved p.name = true) →
        (∀ name target, Entries.get? name later.symbols.aliases = some target → Cpp.isReserved target = false) →
        Captures pending.parameters body → lambda.header.isSome) := by
  obtain ⟨lambda, accepted, parameters, same⟩ := declare_gives declared
  obtain ⟨body, found, resolved, held, definition⟩ := define_gives defined
  have names : mentions source = bodyNames (lines pending.body.toList) := by
    rw [mentions, accepted, same]
  have captures := captures_iff_of_registered pending.parameters (bodyStatements_registered resolved)
  rw [← names] at captures
  refine ⟨lambda, body, found, accepted, parameters, held, definition, captures, ?_⟩
  -- without a header the parameters are the expected ones, whose names no object has
  intro reserved free captured
  obtain ⟨p, member, name, -, leads⟩ := captures.mp captured
  cases written : lambda.header with
  | some header => rfl
  | none =>
    rw [parameters, parametersAt, written] at member
    have both := (reserved p member).symm.trans (free name p.name leads)
    cases both

theorem captures_iff_relayCode :
    ∃ pending between e last,
      (declare relayCode .root [⟨"x", .float⟩] (some .bool)).apply relayDraft = (.ok pending, between) ∧
        pending.define.apply between = (.ok e, last) ∧
        ∃ (body : List Cpp.Statement) (found : Declaration), last.symbols.find? pending.symbol.name = some found ∧
          found.definition = some (.lambda "=" pending.parameters pending.result body) ∧
          (Captures pending.parameters body ↔ ∃ p ∈ pending.parameters, ∃ name ∈ mentions relayCode,
            Entries.get? name between.symbols.aliases = some p.name) := by
  obtain ⟨pending, between, e, last, declared, defined, -⟩ := exists_steps_relayCode
  obtain ⟨lambda, body, found, -, -, held, definition, captures, -⟩ := captures_iff declared defined
  exact ⟨pending, between, e, last, declared, defined, body, found, held, definition, captures⟩

/-- The switch that the body mentions is captured by the parameter. -/
theorem captures_relayCode :
    ∃ pending between e last body found,
      (declare relayCode .root [⟨"x", .float⟩] (some .bool)).apply relayDraft = (.ok pending, between) ∧
        pending.define.apply between = (.ok e, last) ∧ last.symbols.find? pending.symbol.name = some found ∧
        found.definition = some (.lambda "=" pending.parameters pending.result body) ∧
        Captures pending.parameters body := by
  obtain ⟨pending, between, e, last, declared, defined, parameters, code, leads⟩ := exists_steps_relayCode
  obtain ⟨body, found, resolved, held, definition⟩ := define_gives defined
  have mentioned : "relay" ∈ bodyNames (lines pending.body.toList) := by
    have names : bodyNames (lines "return id(relay).state;".toList) = ["relay"] := by cbv
    rw [code, names]
    exact List.mem_singleton_self _
  have captured : Captures pending.parameters body := by
    refine (captures_iff_of_registered _ (bodyStatements_registered resolved)).mpr ?_
    exact ⟨⟨"relay", .float⟩, parameters ▸ List.mem_singleton_self _, "relay", mentioned, leads⟩
  exact ⟨pending, between, e, last, body, found, declared, defined, held, definition, captured⟩

end DeviceConfig.Lambda
