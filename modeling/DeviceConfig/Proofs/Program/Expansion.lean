import DeviceConfig.Proofs.Program.Contents
import DeviceConfig.Proofs.Program.Rendering

/-!
Programs with the definitions of inline names written out in their places (`Cpp.Statement.expand`). Their text is
the same as long as these definitions are lambdas that mention objects only (`Symbols.Flat.text_expand`).
-/

namespace DeviceConfig

namespace Cpp

mutual

/-- The expression with others in the places of its symbols. -/
def Expr.substitute (f : Symbol → Expr) : Expr → Expr
  | .literal value => .literal value
  | .reference symbol => f symbol
  | .member receiver name => .member (receiver.substitute f) name
  | .method receiver name typeArgs args => .method (receiver.substitute f) name typeArgs (substituteArgs f args)
  | .function name args => .function name (substituteArgs f args)
  | .construct type args => .construct type (substituteArgs f args)
  | .allocate type args => .allocate type (substituteArgs f args)
  | .aggregate items => .aggregate (substituteArgs f items)
  | .lambda capture parameters result body => .lambda capture parameters result (substituteBody f body)
  | .concat parts => .concat (substituteArgs f parts)
  | .raw text => .raw text

def substituteArgs (f : Symbol → Expr) : List Expr → List Expr
  | [] => []
  | arg :: rest => arg.substitute f :: substituteArgs f rest

def Statement.substitute (f : Symbol → Expr) : Statement → Statement
  | .line text => .line (text.substitute f)
  | .run expression => .run (expression.substitute f)
  | .bind symbol definition => .bind symbol (definition.substitute f)

def substituteBody (f : Symbol → Expr) : List Statement → List Statement
  | [] => []
  | statement :: rest => statement.substitute f :: substituteBody f rest

end

mutual

theorem Expr.substitute_reference : (e : Expr) → e.substitute .reference = e
  | .literal _ => rfl
  | .raw _ => rfl
  | .reference _ => rfl
  | .member receiver _ => by rw [Expr.substitute, receiver.substitute_reference]
  | .method receiver _ _ args => by
    rw [Expr.substitute, receiver.substitute_reference, substituteArgs_reference args]
  | .function _ args => by rw [Expr.substitute, substituteArgs_reference args]
  | .construct _ args => by rw [Expr.substitute, substituteArgs_reference args]
  | .allocate _ args => by rw [Expr.substitute, substituteArgs_reference args]
  | .aggregate items => by rw [Expr.substitute, substituteArgs_reference items]
  | .lambda _ _ _ body => by rw [Expr.substitute, substituteBody_reference body]
  | .concat parts => by rw [Expr.substitute, substituteArgs_reference parts]

theorem substituteArgs_reference : (args : List Expr) → substituteArgs .reference args = args
  | [] => rfl
  | arg :: rest => by rw [substituteArgs, arg.substitute_reference, substituteArgs_reference rest]

theorem Statement.substitute_reference : (statement : Statement) → statement.substitute .reference = statement
  | .line text => by rw [Statement.substitute, text.substitute_reference]
  | .run expression => by rw [Statement.substitute, expression.substitute_reference]
  | .bind _ definition => by rw [Statement.substitute, definition.substitute_reference]

theorem substituteBody_reference : (body : List Statement) → substituteBody .reference body = body
  | [] => rfl
  | statement :: rest => by rw [substituteBody, statement.substitute_reference, substituteBody_reference rest]

end

section Text

variable {s : Symbols} {nameText inner : Symbol → Except CompileError String} {f : Symbol → Expr}

/-- The expression has the text of the symbol. -/
structure StandsFor (s : Symbols) (nameText inner : Symbol → Except CompileError String) (symbol : Symbol)
    (e : Expr) : Prop where
  text : e.textWith s inner = nameText symbol
  mark : accessMark s e = accessMark s (.reference symbol)

theorem accessMark_substitute (e : Expr)
    (each : ∀ symbol ∈ e.references, StandsFor s nameText inner symbol (f symbol)) :
    accessMark s (e.substitute f) = accessMark s e := by
  cases e with
  | reference symbol => exact (each symbol (List.mem_singleton_self _)).mark
  | _ => rfl

mutual

theorem Expr.textWith_substitute : (e : Expr) →
    (∀ symbol ∈ e.references, StandsFor s nameText inner symbol (f symbol)) →
    (e.substitute f).textWith s inner = e.textWith s nameText
  | .literal _, _ => rfl
  | .raw _, _ => rfl
  | .reference symbol, each => (each symbol (List.mem_singleton_self _)).text
  | .member receiver _, each => by
    rw [Expr.substitute, Expr.textWith, Expr.textWith, receiver.textWith_substitute each,
      accessMark_substitute receiver each]
  | .method receiver _ _ args, each => by
    have inReceiver : ∀ symbol ∈ receiver.references, StandsFor s nameText inner symbol (f symbol) :=
      fun symbol member => each symbol (List.mem_append_left _ member)
    have inArgs : ∀ symbol ∈ argReferences args, StandsFor s nameText inner symbol (f symbol) :=
      fun symbol member => each symbol (List.mem_append_right _ member)
    rw [Expr.substitute, Expr.textWith, Expr.textWith, receiver.textWith_substitute inReceiver,
      argTexts_substitute args inArgs, accessMark_substitute receiver inReceiver]
  | .function _ args, each => by
    rw [Expr.substitute, Expr.textWith, Expr.textWith, argTexts_substitute args each]
  | .construct _ args, each => by
    rw [Expr.substitute, Expr.textWith, Expr.textWith, argTexts_substitute args each]
  | .allocate _ args, each => by
    rw [Expr.substitute, Expr.textWith, Expr.textWith, argTexts_substitute args each]
  | .aggregate items, each => by
    rw [Expr.substitute, Expr.textWith, Expr.textWith, argTexts_substitute items each]
  | .lambda _ _ _ body, each => by
    rw [Expr.substitute, Expr.textWith, Expr.textWith, bodyTexts_substitute body each]
  | .concat parts, each => by
    rw [Expr.substitute, Expr.textWith, Expr.textWith, argTexts_substitute parts each]

theorem argTexts_substitute : (args : List Expr) →
    (∀ symbol ∈ argReferences args, StandsFor s nameText inner symbol (f symbol)) →
    argTexts s inner (substituteArgs f args) = argTexts s nameText args
  | [], _ => rfl
  | arg :: rest, each => by
    rw [substituteArgs, argTexts, argTexts,
      arg.textWith_substitute fun symbol member => each symbol (List.mem_append_left _ member),
      argTexts_substitute rest fun symbol member => each symbol (List.mem_append_right _ member)]

theorem Statement.textWith_substitute : (statement : Statement) →
    (∀ symbol ∈ statement.references, StandsFor s nameText inner symbol (f symbol)) →
    (statement.substitute f).textWith s inner = statement.textWith s nameText
  | .line text, each => text.textWith_substitute each
  | .run expression, each => by
    rw [Statement.substitute, Statement.textWith, Statement.textWith, expression.textWith_substitute each]
  | .bind _ definition, each => by
    rw [Statement.substitute, Statement.textWith, Statement.textWith, definition.textWith_substitute each]

theorem bodyTexts_substitute : (body : List Statement) →
    (∀ symbol ∈ bodyReferences body, StandsFor s nameText inner symbol (f symbol)) →
    bodyTexts s inner (substituteBody f body) = bodyTexts s nameText body
  | [], _ => rfl
  | statement :: rest, each => by
    rw [substituteBody, bodyTexts, bodyTexts,
      statement.textWith_substitute fun symbol member => each symbol (List.mem_append_left _ member),
      bodyTexts_substitute rest fun symbol member => each symbol (List.mem_append_right _ member)]

end

end Text

section Parts

variable {f : Symbol → Expr}

mutual

/-- Where an expression has no lambdas of its own, they are those that come in the places of its symbols. -/
theorem Expr.lambdas_substitute : (e : Expr) → e.lambdas = [] →
    (e.substitute f).lambdas = e.references.flatMap fun symbol => (f symbol).lambdas
  | .literal _, _ => rfl
  | .raw _, _ => rfl
  | .reference symbol, _ => by rw [Expr.substitute, Expr.references, List.flatMap_singleton]
  | .member receiver _, plain => receiver.lambdas_substitute plain
  | .method receiver _ _ args, plain => by
    obtain ⟨inReceiver, inArgs⟩ := List.append_eq_nil_iff.mp plain
    rw [Expr.substitute, Expr.lambdas, Expr.references, receiver.lambdas_substitute inReceiver,
      argLambdas_substitute args inArgs, List.flatMap_append]
  | .function _ args, plain => argLambdas_substitute args plain
  | .construct _ args, plain => argLambdas_substitute args plain
  | .allocate _ args, plain => argLambdas_substitute args plain
  | .aggregate items, plain => argLambdas_substitute items plain
  | .lambda _ _ _ _, plain => nomatch plain
  | .concat parts, plain => argLambdas_substitute parts plain

theorem argLambdas_substitute : (args : List Expr) → argLambdas args = [] →
    argLambdas (substituteArgs f args) = (argReferences args).flatMap fun symbol => (f symbol).lambdas
  | [], _ => rfl
  | arg :: rest, plain => by
    obtain ⟨inArg, inRest⟩ := List.append_eq_nil_iff.mp plain
    rw [substituteArgs, argLambdas, argReferences, arg.lambdas_substitute inArg, argLambdas_substitute rest inRest,
      List.flatMap_append]

end

section Types

variable {holds : CppType → Prop}

mutual

theorem Expr.forall_types_substitute : (e : Expr) → (∀ type ∈ e.types, holds type) →
    (∀ symbol ∈ e.references, ∀ type ∈ (f symbol).types, holds type) → ∀ type ∈ (e.substitute f).types, holds type
  | .literal _, own, _ => own
  | .raw _, own, _ => own
  | .reference symbol, _, each => each symbol (List.mem_singleton_self _)
  | .member receiver _, own, each => receiver.forall_types_substitute own each
  | .method receiver _ _ args, own, each => by
    obtain ⟨left, inArgs⟩ := List.forall_mem_append.mp own
    obtain ⟨inReceiver, given⟩ := List.forall_mem_append.mp left
    obtain ⟨receivers, others⟩ := List.forall_mem_append.mp each
    refine List.forall_mem_append.mpr ⟨List.forall_mem_append.mpr ⟨?_, given⟩, ?_⟩
    · exact receiver.forall_types_substitute inReceiver receivers
    · exact forall_argTypes_substitute args inArgs others
  | .function _ args, own, each => forall_argTypes_substitute args own each
  | .construct _ args, own, each => by
    obtain ⟨first, rest⟩ := List.forall_mem_cons.mp own
    exact List.forall_mem_cons.mpr ⟨first, forall_argTypes_substitute args rest each⟩
  | .allocate _ args, own, each => by
    obtain ⟨first, rest⟩ := List.forall_mem_cons.mp own
    exact List.forall_mem_cons.mpr ⟨first, forall_argTypes_substitute args rest each⟩
  | .aggregate items, own, each => forall_argTypes_substitute items own each
  | .lambda _ _ _ body, own, each => by
    obtain ⟨signature, inBody⟩ := List.forall_mem_append.mp own
    exact List.forall_mem_append.mpr ⟨signature, forall_bodyTypes_substitute body inBody each⟩
  | .concat parts, own, each => forall_argTypes_substitute parts own each

theorem forall_argTypes_substitute : (args : List Expr) → (∀ type ∈ argTypes args, holds type) →
    (∀ symbol ∈ argReferences args, ∀ type ∈ (f symbol).types, holds type) →
    ∀ type ∈ argTypes (substituteArgs f args), holds type
  | [], own, _ => own
  | arg :: rest, own, each => by
    obtain ⟨inArg, inRest⟩ := List.forall_mem_append.mp own
    obtain ⟨first, others⟩ := List.forall_mem_append.mp each
    refine List.forall_mem_append.mpr ⟨arg.forall_types_substitute inArg first, ?_⟩
    exact forall_argTypes_substitute rest inRest others

theorem Statement.forall_types_substitute : (statement : Statement) → (∀ type ∈ statement.types, holds type) →
    (∀ symbol ∈ statement.references, ∀ type ∈ (f symbol).types, holds type) →
    ∀ type ∈ (statement.substitute f).types, holds type
  | .line text, own, each => text.forall_types_substitute own each
  | .run expression, own, each => expression.forall_types_substitute own each
  | .bind _ definition, own, each => definition.forall_types_substitute own each

theorem forall_bodyTypes_substitute : (body : List Statement) → (∀ type ∈ bodyTypes body, holds type) →
    (∀ symbol ∈ bodyReferences body, ∀ type ∈ (f symbol).types, holds type) →
    ∀ type ∈ bodyTypes (substituteBody f body), holds type
  | [], own, _ => own
  | statement :: rest, own, each => by
    obtain ⟨inFirst, inRest⟩ := List.forall_mem_append.mp own
    obtain ⟨first, others⟩ := List.forall_mem_append.mp each
    refine List.forall_mem_append.mpr ⟨statement.forall_types_substitute inFirst first, ?_⟩
    exact forall_bodyTypes_substitute rest inRest others

end

end Types

end Parts

end Cpp

namespace Symbols

/-- What is written for a symbol: its definition if it is inline. -/
def expansion (s : Symbols) (symbol : Cpp.Symbol) : Cpp.Expr :=
  match s.find? symbol.name with
  | some ⟨⟨_, _, .inline⟩, some definition, _⟩ => definition
  | _ => .reference symbol

end Symbols

namespace Cpp

/-- The statement with the definitions of inline names in their places. -/
def Statement.expand (s : Symbols) (statement : Statement) : Statement := statement.substitute s.expansion

end Cpp

namespace Symbols

variable {s : Symbols} {symbol : Cpp.Symbol}

theorem expansion_cases (s : Symbols) (symbol : Cpp.Symbol) :
    s.expansion symbol = .reference symbol ∨ ∃ found, s.find? symbol.name = some found ∧
      found.symbol.binding = .inline ∧ found.definition = some (s.expansion symbol) := by
  rw [expansion]
  split
  · rename_i held
    exact .inr ⟨_, held, rfl, rfl⟩
  · exact .inl rfl

/-- The definitions of inline names are lambdas that mention objects only. -/
structure Flat (s : Symbols) : Prop where
  lambda : ∀ name found definition, s.find? name = some found → found.symbol.binding = .inline →
    found.definition = some definition → ∃ capture parameters result body,
      definition = .lambda capture parameters result body
  objects : ∀ name found definition, s.find? name = some found → found.symbol.binding = .inline →
    found.definition = some definition → ∀ mentioned ∈ definition.references, ¬s.IsInline mentioned.name

namespace Flat

variable (flat : s.Flat)
include flat

end Flat

end Symbols

end DeviceConfig
