import DeviceConfig.Program.Basic
import DeviceConfig.Proofs.Program.Symbols

/-!
Expressions hold copies of symbols as they were when the expressions were made. What is written out depends on the
names of the copies alone: of a declared name, any copy does, however old (`Symbols.text_of_alike`).
-/

namespace DeviceConfig

namespace Symbols

/-- The same copy of a symbol, or two copies of a declared name, whatever their types and bindings. -/
def Alike (s : Symbols) (a b : Cpp.Symbol) : Prop := a = b ∨ a.name = b.name ∧ a.name ∈ s.names

variable {s : Symbols} {a b : Cpp.Symbol}

theorem Alike.name_eq (alike : s.Alike a b) : a.name = b.name := by
  rcases alike with rfl | ⟨same, -⟩
  · rfl
  · exact same

theorem current_eq_of_find? {found : Declaration} (held : s.find? a.name = some found) :
    s.current a = found.symbol := by
  rw [current, held]

/-- Alike copies are looked up to the same symbol. -/
theorem Alike.current_eq (alike : s.Alike a b) : s.current a = s.current b := by
  rcases alike with rfl | ⟨same, declared⟩
  · rfl
  · obtain ⟨found, held⟩ := Option.ne_none_iff_exists'.mp (mt find?_eq_none_iff.mp (not_not_intro declared))
    rw [current_eq_of_find? held, current_eq_of_find? (same ▸ held)]

theorem alike_current (s : Symbols) (a : Cpp.Symbol) : s.Alike a (s.current a) := by
  cases held : s.find? a.name with
  | none => exact .inl (by rw [current, held])
  | some found =>
    refine .inr ⟨?_, mem_names_of_find? held⟩
    rw [current_eq_of_find? held, name_of_find? held]

/-- The text of a name is that of any copy with this name. -/
theorem nameText_congr (enclosing : List String) (same : a.name = b.name) :
    s.nameText enclosing a = s.nameText enclosing b := by
  rw [nameText, nameText, same]

end Symbols

namespace Cpp

mutual

/-- Expressions with alike copies of symbols in the same places, and alike in all else. -/
inductive Expr.Alike (s : Symbols) : Expr → Expr → Prop
  | literal (value : Literal) : Expr.Alike s (.literal value) (.literal value)
  | raw (text : String) : Expr.Alike s (.raw text) (.raw text)
  | reference {a b : Symbol} (same : s.Alike a b) : Expr.Alike s (.reference a) (.reference b)
  | member {e e' : Expr} (name : String) (object : Expr.Alike s e e') : Expr.Alike s (.member e name) (.member e' name)
  | method {e e' : Expr} {args args' : List Expr} (name : String) (typeArgs : List CppType)
      (object : Expr.Alike s e e') (each : ArgsAlike s args args') :
      Expr.Alike s (.method e name typeArgs args) (.method e' name typeArgs args')
  | function {args args' : List Expr} (name : String) (each : ArgsAlike s args args') :
      Expr.Alike s (.function name args) (.function name args')
  | construct {args args' : List Expr} (type : CppType) (each : ArgsAlike s args args') :
      Expr.Alike s (.construct type args) (.construct type args')
  | allocate {args args' : List Expr} (type : CppType) (each : ArgsAlike s args args') :
      Expr.Alike s (.allocate type args) (.allocate type args')
  | aggregate {items items' : List Expr} (each : ArgsAlike s items items') :
      Expr.Alike s (.aggregate items) (.aggregate items')
  | lambda {body body' : List Statement} (capture : String) (parameters : List Parameter) (result : Option CppType)
      (each : BodyAlike s body body') :
      Expr.Alike s (.lambda capture parameters result body) (.lambda capture parameters result body')
  | concat {parts parts' : List Expr} (each : ArgsAlike s parts parts') : Expr.Alike s (.concat parts) (.concat parts')

inductive ArgsAlike (s : Symbols) : List Expr → List Expr → Prop
  | nil : ArgsAlike s [] []
  | cons {arg arg' : Expr} {rest rest' : List Expr} (first : Expr.Alike s arg arg') (others : ArgsAlike s rest rest') :
      ArgsAlike s (arg :: rest) (arg' :: rest')

/-- Statements with alike copies of symbols, those that they bind included. -/
inductive Statement.Alike (s : Symbols) : Statement → Statement → Prop
  | line {e e' : Expr} (text : Expr.Alike s e e') : Statement.Alike s (.line e) (.line e')
  | run {e e' : Expr} (expression : Expr.Alike s e e') : Statement.Alike s (.run e) (.run e')
  | bind {a b : Symbol} {e e' : Expr} (same : s.Alike a b) (definition : Expr.Alike s e e') :
      Statement.Alike s (.bind a e) (.bind b e')

inductive BodyAlike (s : Symbols) : List Statement → List Statement → Prop
  | nil : BodyAlike s [] []
  | cons {statement statement' : Statement} {rest rest' : List Statement}
      (first : Statement.Alike s statement statement') (others : BodyAlike s rest rest') :
      BodyAlike s (statement :: rest) (statement' :: rest')

end

variable {s : Symbols} {e e' : Expr} {st st' : Statement}

/-- What stands before a member follows the binding that the object has now. -/
theorem Expr.Alike.accessMark_eq (alike : Expr.Alike s e e') : accessMark s e = accessMark s e' := by
  cases alike with
  | reference same => simp only [accessMark, same.current_eq]
  | _ => rfl

section Texts

variable {enclosing : List String}

mutual

theorem Expr.Alike.textWith_eq : {e e' : Expr} → Expr.Alike s e e' →
    e.textWith s (s.nameText enclosing) = e'.textWith s (s.nameText enclosing)
  | _, _, .literal _ => rfl
  | _, _, .raw _ => rfl
  | _, _, .reference same => Symbols.nameText_congr enclosing same.name_eq
  | _, _, .member _ object => by simp only [Expr.textWith, object.textWith_eq, object.accessMark_eq]
  | _, _, .method _ _ object each => by
    simp only [Expr.textWith, object.textWith_eq, object.accessMark_eq, each.argTexts_eq]
  | _, _, .function _ each => by simp only [Expr.textWith, each.argTexts_eq]
  | _, _, .construct _ each => by simp only [Expr.textWith, each.argTexts_eq]
  | _, _, .allocate _ each => by simp only [Expr.textWith, each.argTexts_eq]
  | _, _, .aggregate each => by simp only [Expr.textWith, each.argTexts_eq]
  | _, _, .lambda _ _ _ each => by simp only [Expr.textWith, each.bodyTexts_eq]
  | _, _, .concat each => by simp only [Expr.textWith, each.argTexts_eq]

theorem ArgsAlike.argTexts_eq : {args args' : List Expr} → ArgsAlike s args args' →
    argTexts s (s.nameText enclosing) args = argTexts s (s.nameText enclosing) args'
  | _, _, .nil => rfl
  | _, _, .cons first others => by simp only [argTexts, first.textWith_eq, others.argTexts_eq]

theorem Statement.Alike.textWith_eq : {st st' : Statement} → Statement.Alike s st st' →
    st.textWith s (s.nameText enclosing) = st'.textWith s (s.nameText enclosing)
  | _, _, .line text => by simp only [Statement.textWith, text.textWith_eq]
  | _, _, .run expression => by simp only [Statement.textWith, expression.textWith_eq]
  | _, _, .bind same definition => by simp only [Statement.textWith, definition.textWith_eq, same.current_eq]

theorem BodyAlike.bodyTexts_eq : {body body' : List Statement} → BodyAlike s body body' →
    bodyTexts s (s.nameText enclosing) body = bodyTexts s (s.nameText enclosing) body'
  | _, _, .nil => rfl
  | _, _, .cons first others => by simp only [bodyTexts, first.textWith_eq, others.bodyTexts_eq]

end

end Texts

theorem Statement.Alike.text_eq (alike : Statement.Alike s st st') : st.text s = st'.text s := alike.textWith_eq

theorem Statement.Alike.global?_eq (alike : Statement.Alike s st st') : st.global? s = st'.global? s := by
  cases alike with
  | line text => rfl
  | run expression => rfl
  | bind same definition => simp only [global?, bound?, Option.bind_some, same.current_eq]

theorem BodyAlike.statementTexts_eq {body body' : List Statement} (alike : BodyAlike s body body') :
    statementTexts s body = statementTexts s body' := by
  induction body generalizing body' with
  | nil =>
    cases alike
    rfl
  | cons statement rest ih =>
    cases alike with
    | cons first others => rw [statementTexts, statementTexts, first.text_eq, ih others]

theorem BodyAlike.globals_eq {body body' : List Statement} (alike : BodyAlike s body body') :
    body.filterMap (Statement.global? s) = body'.filterMap (Statement.global? s) := by
  induction body generalizing body' with
  | nil =>
    cases alike
    rfl
  | cons statement rest ih =>
    cases alike with
    | cons first others => rw [List.filterMap_cons, List.filterMap_cons, first.global?_eq, ih others]

end Cpp

/-- Programs of the same names that bind and mention them in the same places are written out alike. -/
theorem Program.output_eq_of_alike {p q : Program} (names : q.symbols = p.symbols) (needs : q.metadata = p.metadata)
    (alike : Cpp.BodyAlike p.symbols p.statements q.statements) (form : OutputForm) : p.output form = q.output form := by
  have fragment : p.fragment = q.fragment := by
    rw [Program.fragment, Program.fragment, names, alike.statementTexts_eq]
  have globals : p.globals = q.globals := by
    rw [Program.globals, Program.globals, names, alike.globals_eq]
  have preamble : p.preamble = q.preamble := by
    rw [Program.preamble, Program.preamble, globals, needs]
  cases form with
  | fragment => exact fragment
  | main =>
    have whole : p.mainText = q.mainText := by rw [Program.mainText, Program.mainText, fragment, preamble]
    exact whole

namespace Symbols

/-- Whichever copies of declared names stand in an expression or a statement, what is written is the same, or the same
    failure, and so is the global declaration. The copy that is declared now is one of them. -/
theorem text_of_alike (s : Symbols) :
    (∀ a, s.Alike a (s.current a)) ∧
    (∀ e e', Cpp.Expr.Alike s e e' → e.text s = e'.text s) ∧
    ∀ st st', Cpp.Statement.Alike s st st' → st.text s = st'.text s ∧ st.global? s = st'.global? s :=
  ⟨s.alike_current, fun _ _ alike => alike.textWith_eq, fun _ _ alike => ⟨alike.text_eq, alike.global?_eq⟩⟩

/-- A copy of a pointer from when it was a local is written as a pointer, on both sides. -/
theorem text_of_alike_relay :
    let s : Symbols := ⟨[⟨⟨"relay", .named "switch_::Switch", .pointer⟩, some .null, "switch"⟩], [], "switch"⟩
    let copy : Cpp.Symbol := ⟨"relay", .float, .value⟩
    let st : Cpp.Statement := .bind copy (.member (.reference copy) "next")
    st.text s = .ok "relay = relay->next;" ∧ st.global? s = some "switch_::Switch *relay;" := by
  intro s copy st
  let now : Cpp.Symbol := ⟨"relay", .named "switch_::Switch", .pointer⟩
  have same : s.Alike copy now := .inr ⟨rfl, List.mem_singleton_self _⟩
  have alike : Cpp.Statement.Alike s st (.bind now (.member (.reference now) "next")) :=
    .bind same (.member "next" (.reference same))
  obtain ⟨text, global⟩ := s.text_of_alike.2.2 _ _ alike
  rw [text, global]
  exact ⟨by cbv, by cbv⟩

end Symbols

end DeviceConfig
