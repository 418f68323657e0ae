import DeviceConfig.Proofs.Assembly.Parts
import DeviceConfig.Proofs.Lambda.Reading

/-!
What is left of a lambda in a draft when its two steps do not fail: an inline name with the compiled code as its
definition (`ensures_declare`, `ensures_define`).
-/

namespace DeviceConfig.Lambda

open Build Automation

variable {source : String} {path : Path} {parameters : List Cpp.Parameter} {result : Option CppType} {d : Draft}

theorem types_of_headerAt {written : Option Header} {header : Header}
    (fits : headerAt path parameters result written = .ok header) :
    header.parameters.map (·.type) = parameters.map (·.type) ∧
      ∀ type ∈ header.result, type ∈ result ∨ ∃ own ∈ written, type ∈ own.result := by
  cases written with
  | none =>
    cases fits
    exact ⟨rfl, fun type member => .inl member⟩
  | some own =>
    rw [headerAt] at fits
    split at fits
    · rename_i agree
      cases fits
      refine ⟨agree.1, fun type member => ?_⟩
      cases given : own.result with
      | none =>
        rw [given] at member
        exact .inl member
      | some other =>
        rw [given] at member
        exact .inr ⟨own, rfl, given ▸ member⟩
    · cases fits

section Bodies

variable {s : Symbols}

theorem types_of_fragmentExprs {fragments : List Fragment} {es : List Cpp.Expr}
    (read : fragmentExprs s fragments = .ok es) : Cpp.argTypes es = [] := by
  induction fragments generalizing es with
  | nil =>
    cases read
    rfl
  | cons fragment rest ih =>
    obtain ⟨first, here, others⟩ := bind_eq_ok_iff.mp read
    obtain ⟨later, tail, same⟩ := bind_eq_ok_iff.mp others
    cases same
    rw [Cpp.argTypes, ih tail, List.append_nil]
    cases fragment with
    | text chars =>
      cases here
      rfl
    | object name access =>
      obtain ⟨symbol, -, same⟩ := bind_eq_ok_iff.mp here
      cases same
      cases access <;> rfl

/-- The user's lines have no types in them that the program knows of. -/
theorem types_of_bodyStatements {lines : List (List Char)} {body : List Cpp.Statement}
    (read : bodyStatements s lines = .ok body) : Cpp.bodyTypes body = [] := by
  induction lines generalizing body with
  | nil =>
    cases read
    rfl
  | cons line rest ih =>
    obtain ⟨parts, here, others⟩ := bind_eq_ok_iff.mp read
    obtain ⟨later, tail, same⟩ := bind_eq_ok_iff.mp others
    cases same
    rw [Cpp.bodyTypes, ih tail, List.append_nil]
    exact types_of_fragmentExprs here

end Bodies

theorem CompilesTo.types {aliases : Entries String} {capture : String} {body : List Cpp.Statement}
    (compiles : CompilesTo aliases source (.lambda capture parameters result body)) :
    (Cpp.Expr.lambda capture parameters result body).types = parameters.map (·.type) ++ result.toList := by
  obtain ⟨_, _, _, _, s, -, same, -, read⟩ := compiles
  cases same
  rw [Cpp.Expr.types, types_of_bodyStatements read, List.append_nil]

theorem known_of_isReadable {type : CppType} (readable : IsReadable type) : type.Known := by
  obtain ⟨text, read⟩ := readable
  exact (CppType.wellFormed_of_read? read).known

/-- The lambda that was declared for this code. -/
structure Awaits (source : String) (expected : List CppType) (pending : Pending) : Prop where
  inline : pending.symbol.binding = .inline
  made : Cpp.IsMadeFrom "lambda" pending.symbol.name
  written : ∃ lambda, read source = .ok lambda ∧ lambda.body = pending.body
  types : pending.parameters.map (·.type) = expected
  result : ∀ type ∈ pending.result, type.Known

theorem ensures_declare (known : ∀ type ∈ result, type.Known) :
    Ensures (declare source path parameters result) d fun pending next =>
      next = { d with symbols := d.symbols.add pending.symbol } ∧ pending.symbol.name ∉ d.symbols.names ∧
        Awaits source (parameters.map (·.type)) pending := by
  cases whole : readAt source path parameters result with
  | error e =>
    rw [declare, whole]
    exact yields_throw trivial
  | ok reading =>
    obtain ⟨header, body⟩ := reading
    have free := Symbols.notMem_names_declare d.symbols "lambda" type .inline
    refine yields_of_apply (apply_declare whole d) ⟨rfl, free, ?_⟩
    rw [readAt] at whole
    split at whole
    · cases whole
    rename_i lambda accepted
    obtain ⟨_, fits, same⟩ := bind_eq_ok_iff.mp whole
    cases same
    obtain ⟨types, origin⟩ := types_of_headerAt fits
    refine ⟨rfl, Cpp.prefix_fresh _ _, ⟨lambda, accepted, rfl⟩, types, fun type member => ?_⟩
    rcases origin type member with expected | ⟨own, written, inOwn⟩
    · exact known type expected
    · exact known_of_isReadable (((read_gives accepted).header own written).result type inOwn)

/-- The definition that a lambda gets. -/
theorem ensures_define {expected : List CppType} {pending : Pending} (awaits : Awaits source expected pending)
    {found : Declaration} (held : d.symbols.find? pending.symbol.name = some found)
    (undefined : found.definition = none) :
    Ensures pending.define d fun e next => e = pending.reference ∧
      ∃ definition, next = { d with symbols := d.symbols.replace { found with definition := some definition } } ∧
        (found.symbol.binding = .inline →
          IsLambda d.symbols.aliases expected source { found with definition := some definition }) := by
  obtain ⟨lambda, accepted, same⟩ := awaits.written
  cases resolved : bodyStatements d.symbols (Text.lines pending.body.toList) with
  | error e =>
    rw [Pending.define]
    exact yields_bind (yields_ofSymbols_error resolved trivial)
  | ok body =>
    let definition : Cpp.Expr := .lambda "=" pending.parameters pending.result body
    have done := Symbols.define_eq held undefined definition
    refine yields_of_apply (apply_defineLambda resolved done) ⟨rfl, definition, rfl, fun inline => ?_⟩
    have made : Cpp.IsMadeFrom "lambda" found.symbol.name := Symbols.name_of_find? held ▸ awaits.made
    refine ⟨inline, made, pending.parameters, pending.result, body, rfl, ?_, awaits.types, awaits.result⟩
    exact ⟨lambda, pending.parameters, pending.result, body, d.symbols, accepted, rfl, rfl, same ▸ resolved⟩

theorem ensures_compile (known : ∀ type ∈ result, type.Known) :
    Ensures (compile source path parameters result) d fun e next => ∃ declaration,
      declaration.symbol.name ∉ d.symbols.names ∧
        IsLambda d.symbols.aliases (parameters.map (·.type)) source declaration ∧
        e = .reference declaration.symbol ∧ next = d.plus ⟨[declaration], []⟩ := by
  refine (ensures_declare known).bind fun pending later ⟨same, free, awaits⟩ => ?_
  subst same
  have held := Symbols.find?_add free pending.symbol.name
  rw [if_pos rfl] at held
  refine (ensures_define awaits held rfl).mono fun e next ⟨reference, definition, same, lambda⟩ => ?_
  let declared : Declaration := ⟨pending.symbol, none, d.symbols.component⟩
  let defined : Declaration := { declared with definition := some definition }
  have replaced : (d.symbols.extend [declared]).replace defined = d.symbols.extend [defined] :=
    Symbols.replace_extend free rfl
  refine ⟨defined, free, lambda awaits.inline, reference, ?_⟩
  rw [same, Draft.plus, List.append_nil, ← replaced]
  rfl

end DeviceConfig.Lambda
