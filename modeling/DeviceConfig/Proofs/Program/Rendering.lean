import DeviceConfig.Program.Basic
import DeviceConfig.Proofs.Program.Symbols

/-!
When a program can be written out. Expressions have a text just if the names in them have one
(`Cpp.Expr.exists_textWith_iff`), and names have one just if they are defined and, where their definitions
stand in their place, the names in there have one (`Symbols.exists_nameText_iff`).
-/

namespace DeviceConfig

namespace Cpp

variable {s : Symbols} {nameText : Symbol → Except CompileError String}

mutual

theorem Expr.exists_textWith : (e : Expr) →
    (∀ symbol ∈ e.references, ∃ text, nameText symbol = .ok text) → ∃ text, e.textWith s nameText = .ok text
  | .literal value, _ => ⟨value.text, rfl⟩
  | .raw text, _ => ⟨text, rfl⟩
  | .reference symbol, each => each symbol (List.mem_singleton_self _)
  | .member receiver _, each => exists_bind_eq_ok (receiver.exists_textWith each) fun _ => ⟨_, rfl⟩
  | .method receiver _ _ args, each => by
    refine exists_bind_eq_ok (receiver.exists_textWith fun symbol member => ?_) fun _ => ?_
    · exact each symbol (List.mem_append_left _ member)
    · refine exists_bind_eq_ok (exists_argTexts args fun symbol member => ?_) fun _ => ⟨_, rfl⟩
      exact each symbol (List.mem_append_right _ member)
  | .function _ args, each => exists_bind_eq_ok (exists_argTexts args each) fun _ => ⟨_, rfl⟩
  | .construct _ args, each => exists_bind_eq_ok (exists_argTexts args each) fun _ => ⟨_, rfl⟩
  | .allocate _ args, each => exists_bind_eq_ok (exists_argTexts args each) fun _ => ⟨_, rfl⟩
  | .aggregate items, each => exists_bind_eq_ok (exists_argTexts items each) fun _ => ⟨_, rfl⟩
  | .lambda _ _ _ body, each => exists_bind_eq_ok (exists_bodyTexts body each) fun _ => ⟨_, rfl⟩
  | .concat parts, each => exists_bind_eq_ok (exists_argTexts parts each) fun _ => ⟨_, rfl⟩

theorem exists_argTexts : (args : List Expr) →
    (∀ symbol ∈ argReferences args, ∃ text, nameText symbol = .ok text) →
    ∃ texts, argTexts s nameText args = .ok texts
  | [], _ => ⟨[], rfl⟩
  | arg :: rest, each => by
    refine exists_bind_eq_ok (arg.exists_textWith fun symbol member => ?_) fun _ => ?_
    · exact each symbol (List.mem_append_left _ member)
    · refine exists_bind_eq_ok (exists_argTexts rest fun symbol member => ?_) fun _ => ⟨_, rfl⟩
      exact each symbol (List.mem_append_right _ member)

theorem Statement.exists_textWith : (statement : Statement) →
    (∀ symbol ∈ statement.references, ∃ text, nameText symbol = .ok text) →
    ∃ text, statement.textWith s nameText = .ok text
  | .line text, each => text.exists_textWith each
  | .run expression, each => exists_bind_eq_ok (expression.exists_textWith each) fun _ => ⟨_, rfl⟩
  | .bind _ definition, each => exists_bind_eq_ok (definition.exists_textWith each) fun _ => ⟨_, rfl⟩

theorem exists_bodyTexts : (body : List Statement) →
    (∀ symbol ∈ bodyReferences body, ∃ text, nameText symbol = .ok text) →
    ∃ texts, bodyTexts s nameText body = .ok texts
  | [], _ => ⟨[], rfl⟩
  | statement :: rest, each => by
    refine exists_bind_eq_ok (statement.exists_textWith fun symbol member => ?_) fun _ => ?_
    · exact each symbol (List.mem_append_left _ member)
    · refine exists_bind_eq_ok (exists_bodyTexts rest fun symbol member => ?_) fun _ => ⟨_, rfl⟩
      exact each symbol (List.mem_append_right _ member)

end

mutual

theorem Expr.names_of_textWith : (e : Expr) → {text : String} → e.textWith s nameText = .ok text →
    ∀ symbol ∈ e.references, ∃ name, nameText symbol = .ok name
  | .literal _, _, _ => fun _ member => nomatch member
  | .raw _, _, _ => fun _ member => nomatch member
  | .reference symbol, text, read => fun other member => ⟨text, List.mem_singleton.mp member ▸ read⟩
  | .member receiver _, _, read => by
    obtain ⟨_, object, -⟩ := bind_eq_ok_iff.mp read
    exact receiver.names_of_textWith object
  | .method receiver _ _ args, _, read => by
    obtain ⟨_, object, rest⟩ := bind_eq_ok_iff.mp read
    obtain ⟨_, texts, -⟩ := bind_eq_ok_iff.mp rest
    intro symbol member
    rcases List.mem_append.mp member with inReceiver | inArgs
    · exact receiver.names_of_textWith object symbol inReceiver
    · exact names_of_argTexts args texts symbol inArgs
  | .function _ args, _, read => by
    obtain ⟨_, texts, -⟩ := bind_eq_ok_iff.mp read
    exact names_of_argTexts args texts
  | .construct _ args, _, read => by
    obtain ⟨_, texts, -⟩ := bind_eq_ok_iff.mp read
    exact names_of_argTexts args texts
  | .allocate _ args, _, read => by
    obtain ⟨_, texts, -⟩ := bind_eq_ok_iff.mp read
    exact names_of_argTexts args texts
  | .aggregate items, _, read => by
    obtain ⟨_, texts, -⟩ := bind_eq_ok_iff.mp read
    exact names_of_argTexts items texts
  | .lambda _ _ _ body, _, read => by
    obtain ⟨_, texts, -⟩ := bind_eq_ok_iff.mp read
    exact names_of_bodyTexts body texts
  | .concat parts, _, read => by
    obtain ⟨_, texts, -⟩ := bind_eq_ok_iff.mp read
    exact names_of_argTexts parts texts

theorem names_of_argTexts : (args : List Expr) → {texts : List String} →
    argTexts s nameText args = .ok texts → ∀ symbol ∈ argReferences args, ∃ name, nameText symbol = .ok name
  | [], _, _ => fun _ member => nomatch member
  | arg :: rest, _, read => by
    obtain ⟨_, first, others⟩ := bind_eq_ok_iff.mp read
    obtain ⟨_, texts, -⟩ := bind_eq_ok_iff.mp others
    intro symbol member
    rcases List.mem_append.mp member with inFirst | inRest
    · exact arg.names_of_textWith first symbol inFirst
    · exact names_of_argTexts rest texts symbol inRest

theorem Statement.names_of_textWith : (statement : Statement) → {text : String} →
    statement.textWith s nameText = .ok text → ∀ symbol ∈ statement.references, ∃ name, nameText symbol = .ok name
  | .line text, _, read => text.names_of_textWith read
  | .run expression, _, read => by
    obtain ⟨_, text, -⟩ := bind_eq_ok_iff.mp read
    exact expression.names_of_textWith text
  | .bind _ definition, _, read => by
    obtain ⟨_, text, -⟩ := bind_eq_ok_iff.mp read
    exact definition.names_of_textWith text

theorem names_of_bodyTexts : (body : List Statement) → {texts : List String} →
    bodyTexts s nameText body = .ok texts → ∀ symbol ∈ bodyReferences body, ∃ name, nameText symbol = .ok name
  | [], _, _ => fun _ member => nomatch member
  | statement :: rest, _, read => by
    obtain ⟨_, first, others⟩ := bind_eq_ok_iff.mp read
    obtain ⟨_, texts, -⟩ := bind_eq_ok_iff.mp others
    intro symbol member
    rcases List.mem_append.mp member with inFirst | inRest
    · exact statement.names_of_textWith first symbol inFirst
    · exact names_of_bodyTexts rest texts symbol inRest

end

theorem Expr.exists_textWith_iff (e : Expr) :
    (∃ text, e.textWith s nameText = .ok text) ↔ ∀ symbol ∈ e.references, ∃ name, nameText symbol = .ok name :=
  ⟨fun ⟨_, read⟩ => e.names_of_textWith read, e.exists_textWith⟩

end Cpp

theorem Symbols.exists_nameText_iff {s : Symbols} {enclosing : List String} {symbol : Cpp.Symbol} :
    (∃ text, s.nameText enclosing symbol = .ok text) ↔
      ∃ found definition, s.find? symbol.name = some found ∧ found.definition = some definition ∧
        (found.symbol.binding = .inline → symbol.name ∉ enclosing ∧
          ∀ mentioned ∈ definition.references,
            ∃ text, s.nameText (symbol.name :: enclosing) mentioned = .ok text) := by
  rw [nameText]
  split
  · rename_i none
    simp [none]
  · rename_i found held
    split
    · rename_i undefined
      simp [held, undefined]
    · rename_i definition defined
      by_cases object : found.symbol.binding ≠ .inline
      · simp [held, defined, object]
      · by_cases fresh : enclosing.contains symbol.name = false
        · have inline : found.symbol.binding = .inline := not_not.mp object
          have outside : symbol.name ∉ enclosing := by simpa using fresh
          rw [if_neg object, dif_pos fresh, Cpp.Expr.exists_textWith_iff]
          simp [held, defined, inline, outside]
        · have inside : symbol.name ∈ enclosing := by simpa using fresh
          simp [held, defined, object, inside]

theorem exists_statementTexts_iff {s : Symbols} {statements : List Cpp.Statement} :
    (∃ texts, statementTexts s statements = .ok texts) ↔
      ∀ statement ∈ statements, ∃ text, statement.text s = .ok text := by
  induction statements with
  | nil => exact ⟨fun _ _ member => (nomatch member), fun _ => ⟨[], rfl⟩⟩
  | cons statement rest ih =>
    rw [List.forall_mem_cons, ← ih]
    constructor
    · rintro ⟨_, read⟩
      obtain ⟨text, first, others⟩ := bind_eq_ok_iff.mp read
      obtain ⟨texts, later, -⟩ := bind_eq_ok_iff.mp others
      exact ⟨⟨text, first⟩, texts, later⟩
    · rintro ⟨first, others⟩
      exact exists_bind_eq_ok first fun _ => exists_bind_eq_ok others fun _ => ⟨_, rfl⟩

theorem Draft.toProgram_eq_ok_iff {d : Draft} {config : Node} {program : Program} :
    d.toProgram config = .ok program ↔
      (∃ texts, statementTexts d.symbols d.statements = .ok texts) ∧
        d.symbols.checkOrder d.statements = .ok () ∧
        program = ⟨d.statements, d.symbols, d.metadata, config⟩ := by
  constructor
  · intro done
    obtain ⟨texts, read, rest⟩ := bind_eq_ok_iff.mp done
    obtain ⟨_, ordered, same⟩ := bind_eq_ok_iff.mp rest
    cases same
    exact ⟨⟨texts, read⟩, ordered, rfl⟩
  · rintro ⟨⟨texts, read⟩, ordered, rfl⟩
    rw [toProgram, read, ordered]
    rfl

theorem Program.exists_output {program : Program}
    (written : ∃ texts, statementTexts program.symbols program.statements = .ok texts) (form : OutputForm) :
    ∃ text, program.output form = .ok text := by
  have fragment : ∃ text, program.fragment = .ok text := exists_bind_eq_ok written fun _ => ⟨_, rfl⟩
  cases form with
  | fragment => exact fragment
  | main => exact exists_bind_eq_ok fragment fun _ => ⟨_, rfl⟩

end DeviceConfig
