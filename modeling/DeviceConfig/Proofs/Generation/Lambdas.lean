import DeviceConfig.Lambda.Compile
import DeviceConfig.Proofs.Generation.Objects

/-!
Compiling lambdas. The only failures are faults of the code (`Lambda.FaultOf`); else the lambda's name
gets a definition that mentions objects of the user and nothing else.
-/

namespace DeviceConfig

namespace Lambda

/-- The name that a part of a line asks for. -/
def Fragment.name? : Fragment → Option String
  | .text _ => none
  | .object name _ => some name

theorem filterMap_name?_cons (fragment : Fragment) (rest : List Fragment) :
    (fragment :: rest).filterMap Fragment.name? = fragment.name?.toList ++ rest.filterMap Fragment.name? := by
  rw [List.filterMap_cons]
  cases fragment.name? <;> rfl

/-- The names that the lines of a body mention. -/
def bodyNames (lines : List (List Char)) : List String :=
  lines.flatMap fun line => (fragments line).filterMap Fragment.name?

/-- The names that the `id` calls of a lambda mention. -/
def mentions (source : String) : List String :=
  match read source with
  | .ok lambda => bodyNames (Text.lines lambda.body.toList)
  | .error _ => []

/-- What can be wrong with one of these lambdas. -/
def FaultOf (codes : List String) : CompileError → Prop
  | .badLambda source _ => source ∈ codes
  | .wrongSignature _ _ _ => codes ≠ []
  | .undeclared name _ _ => ∃ source ∈ codes, name ∈ mentions source
  | _ => False

theorem not_faultOf_nil (e : CompileError) : ¬FaultOf [] e := by
  cases e <;> simp [FaultOf]

section Bodies

/-- What is read mentions user names only, or one of the names is none that the user declared. -/
def ResolvesTo {α : Type} (users names : List String) (references : α → List Cpp.Symbol) :
    Except CompileError α → Prop
  | .ok result => ∀ mentioned ∈ references result, mentioned.name ∈ users
  | .error (.undeclared name _ _) => name ∈ names
  | .error _ => False

variable {users names others : List String}

theorem ResolvesTo.pair {α β γ : Type} {references : α → List Cpp.Symbol} {rest : β → List Cpp.Symbol}
    {whole : γ → List Cpp.Symbol} {first : Except CompileError α} {second : Except CompileError β}
    {join : α → β → γ} (joined : ∀ a b, whole (join a b) = references a ++ rest b)
    (left : ResolvesTo users names references first) (right : ResolvesTo users others rest second) :
    ResolvesTo users (names ++ others) whole (do
      let a ← first
      let b ← second
      return join a b) := by
  cases first with
  | error e =>
    cases e with
    | undeclared name component declared => exact List.mem_append_left _ left
    | _ => exact left
  | ok a =>
    cases second with
    | error e =>
      cases e with
      | undeclared name component declared => exact List.mem_append_right _ right
      | _ => exact right
    | ok b =>
      intro mentioned member
      rw [joined] at member
      rcases List.mem_append.mp member with inFirst | inSecond
      · exact left mentioned inFirst
      · exact right mentioned inSecond

variable {d : Draft} (sound : d.Sound users)
include sound

theorem fragmentExpr_resolves (fragment : Fragment) :
    ResolvesTo users fragment.name?.toList Cpp.Expr.references (fragmentExpr d.symbols fragment) := by
  cases fragment with
  | text chars =>
    intro mentioned member
    cases member
  | object name access =>
    by_cases known : name ∈ users
    · obtain ⟨found, held, -⟩ := sound.declared name known
      have leads : Entries.get? name d.symbols.aliases = some name := by
        rw [sound.aliases, if_pos known]
      have own := Symbols.name_of_find? held
      have read : fragmentExpr d.symbols (.object name access) =
          .ok (if access then (Cpp.Expr.reference found.symbol).accessed else .reference found.symbol) :=
        bind_eq_ok_iff.mpr ⟨found.symbol, Symbols.resolve_eq leads held, rfl⟩
      rw [read]
      intro mentioned member
      obtain rfl : mentioned = found.symbol := by
        cases access <;> exact List.mem_singleton.mp member
      rw [own]
      exact known
    · have absent : Entries.get? name d.symbols.aliases = none := by
        rw [sound.aliases, if_neg known]
      have read : fragmentExpr d.symbols (.object name access) =
          .error (.undeclared name d.symbols.component (Entries.keys d.symbols.aliases)) := by
        rw [fragmentExpr, Symbols.resolve_error absent]
        rfl
      rw [read]
      exact List.mem_singleton_self _

theorem fragmentExprs_resolves (fragments : List Fragment) :
    ResolvesTo users (fragments.filterMap Fragment.name?) Cpp.argReferences
      (fragmentExprs d.symbols fragments) := by
  induction fragments with
  | nil =>
    intro mentioned member
    cases member
  | cons fragment rest ih =>
    rw [filterMap_name?_cons]
    exact (fragmentExpr_resolves sound fragment).pair (fun _ _ => rfl) ih

theorem bodyStatements_resolves (lines : List (List Char)) :
    ResolvesTo users (bodyNames lines) Cpp.bodyReferences (bodyStatements d.symbols lines) := by
  induction lines with
  | nil =>
    intro mentioned member
    cases member
  | cons line rest ih =>
    rw [bodyNames, List.flatMap_cons]
    exact (fragmentExprs_resolves sound (fragments line)).pair (fun _ _ => rfl) ih

end Bodies

section Steps

open Build Draft

variable {users codes : List String} {d : Draft}

theorem readAt_cases {source : String} (known : source ∈ codes) (path : Path)
    (parameters : List Cpp.Parameter) (result : Option CppType) :
    (∃ header lambda, readAt source path parameters result = .ok (header, lambda.body) ∧
      read source = .ok lambda) ∨
    ∃ e, readAt source path parameters result = .error e ∧ FaultOf codes e := by
  rw [readAt]
  cases whole : read source with
  | error fault => exact .inr ⟨_, rfl, known⟩
  | ok lambda =>
    have some : codes ≠ [] := List.ne_nil_of_mem known
    simp only
    cases fits : headerAt path parameters result lambda.header with
    | ok header => exact .inl ⟨header, lambda, rfl, rfl⟩
    | error e =>
      refine .inr ⟨e, rfl, ?_⟩
      unfold headerAt at fits
      split at fits
      · cases fits
      · split at fits <;> cases fits
        exact some

theorem yields_declare {source : String} (known : source ∈ codes) (path : Path)
    (parameters : List Cpp.Parameter) (result : Option CppType) :
    Yields (declare source path parameters result) d (FaultOf codes) fun pending next =>
      next = { d with symbols := d.symbols.add pending.symbol } ∧
        pending.symbol.name ∉ d.symbols.names ∧ pending.symbol.binding = .inline ∧
        ∃ lambda, read source = .ok lambda ∧ lambda.body = pending.body := by
  rw [declare]
  rcases readAt_cases known path parameters result with ⟨header, lambda, read, whole⟩ | ⟨e, read, fault⟩
  · rw [read]
    refine Build.yields_declare.bind fun symbol next ⟨same, free, kind⟩ => ?_
    exact yields_pure ⟨same, free, kind, lambda, whole, rfl⟩
  · rw [read]
    exact yields_throw fault

theorem yields_define (sound : d.Sound users) {pending : Pending} {found : Declaration}
    (held : d.symbols.find? pending.symbol.name = some found) (undefined : found.definition = none)
    (inline : found.symbol.binding = .inline) {source : String} {lambda : Lambda} (known : source ∈ codes)
    (whole : read source = .ok lambda) (body : lambda.body = pending.body) :
    Yields pending.define d (FaultOf codes) fun e next =>
      Binds users [pending.symbol.name] d next ∧ e = pending.reference ∧
        next.symbols.IsInline pending.symbol.name := by
  -- a body only mentions what its `id` calls ask for
  have resolves := bodyStatements_resolves sound (Text.lines pending.body.toList)
  rw [Pending.define]
  cases read : bodyStatements d.symbols (Text.lines pending.body.toList) with
  | error e =>
    rw [read] at resolves
    refine yields_bind (yields_ofSymbols_error read ?_)
    cases e with
    | undeclared name component declared =>
      refine ⟨source, known, ?_⟩
      rw [mentions, whole]
      simp only [body]
      exact resolves
    | _ => exact False.elim resolves
  | ok statements =>
    rw [read] at resolves
    let definition : Cpp.Expr := .lambda "=" pending.parameters pending.result statements
    have binds := @Sound.defineInline users d sound _ found held undefined inline definition resolves
    have own := Symbols.name_of_find? held
    refine yields_bind (yields_ofSymbols read (yields_bind ?_))
    refine yields_bind (yields_ofSymbols (Symbols.define_eq held undefined definition) ?_)
    refine yields_setSymbols (yields_pure ⟨binds, rfl, ?_⟩)
    let changed : Declaration := { found with definition := some definition }
    have heldOwn : d.symbols.find? changed.symbol.name = some found := by rw [← own] at held; exact held
    exact (Symbols.isInline_replace heldOwn rfl).mpr ⟨found, held, inline⟩

theorem usable_reference_of_inline {symbol : Cpp.Symbol} (inline : d.symbols.IsInline symbol.name) :
    d.Usable users (.reference symbol) := by
  intro mentioned member
  obtain rfl : mentioned = symbol := List.mem_singleton.mp member
  exact .inr (.inl inline)

theorem yields_compile (sound : d.Sound users) {source : String} (known : source ∈ codes) (path : Path)
    (parameters : List Cpp.Parameter) (result : Option CppType) :
    Yields (compile source path parameters result) d (FaultOf codes) fun e next =>
      Binds users [] d next ∧ next.Usable users e := by
  refine (yields_declare known path parameters result).bind
    fun pending later ⟨same, free, kind, lambda, whole, body⟩ => ?_
  subst same
  have added := sound.add free (by rw [kind]; decide)
  have held := Symbols.find?_add free pending.symbol.name
  rw [if_pos rfl] at held
  refine (yields_define added held rfl kind known whole body).mono fun e next ⟨binds, same, inline⟩ => ?_
  subst same
  exact ⟨Binds.of_add free binds, usable_reference_of_inline inline⟩

end Steps

end Lambda

end DeviceConfig
