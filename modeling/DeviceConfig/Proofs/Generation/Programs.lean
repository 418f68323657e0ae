import DeviceConfig.Proofs.Check.Idempotence
import DeviceConfig.Proofs.Generation.Sections

/-!
The programs of checked documents. Only lambdas keep a checked document from becoming a program; in a
program, every object is bound once, and before it is used unless the user named it. The documents repeat
no key in a mapping, as is the case for all that are read (`Node.keysDiffer_of_ofText`).
-/

namespace DeviceConfig

namespace Draft.Complete

variable {users : List String} {d : Draft} (complete : d.Complete users)
include complete

theorem exists_definition {name : String} {found : Declaration} (held : d.symbols.find? name = some found) :
    ∃ definition, found.definition = some definition := by
  cases defined : found.definition with
  | none => exact absurd ⟨found, held, defined⟩ (complete.defined name)
  | some definition => exact ⟨definition, rfl⟩

theorem exists_nameText_user {symbol : Cpp.Symbol} (user : symbol.name ∈ users) (enclosing : List String) :
    ∃ text, d.symbols.nameText enclosing symbol = .ok text := by
  obtain ⟨found, held, pointer⟩ := complete.sound.declared _ user
  obtain ⟨definition, defined⟩ := complete.exists_definition held
  refine Symbols.exists_nameText_iff.mpr ⟨found, definition, held, defined, fun inline => ?_⟩
  cases pointer.symm.trans inline

theorem exists_nameText {before : List Cpp.Statement} {symbol : Cpp.Symbol}
    (part : ∀ name ∈ boundNames before, name ∈ boundNames d.statements)
    (may : MayMention users d.symbols before symbol.name) :
    ∃ text, d.symbols.nameText [] symbol = .ok text := by
  rcases may with user | ⟨found, held, inline⟩ | bound
  · exact complete.exists_nameText_user user []
  · obtain ⟨definition, defined⟩ := complete.exists_definition held
    refine Symbols.exists_nameText_iff.mpr ⟨found, definition, held, defined, fun _ => ?_⟩
    refine ⟨List.not_mem_nil, fun mentioned member => ?_⟩
    rcases complete.sound.kinds _ found held with pointer | ⟨-, mentions⟩
    · cases pointer.symm.trans inline
    · exact complete.exists_nameText_user (mentions definition defined mentioned member) _
  · obtain ⟨found, held, pointer, defined⟩ := (complete.sound.bound _).mp (part _ bound)
    obtain ⟨definition, given⟩ := Option.isSome_iff_exists.mp defined
    refine Symbols.exists_nameText_iff.mpr ⟨found, definition, held, given, fun inline => ?_⟩
    cases pointer.symm.trans inline

theorem exists_statementTexts : ∃ texts, statementTexts d.symbols d.statements = .ok texts := by
  refine exists_statementTexts_iff.mpr fun statement member => ?_
  refine statement.exists_textWith fun symbol mentioned => ?_
  obtain ⟨before, after, whole⟩ := List.append_of_mem member
  have may := complete.sound.ordered before statement after whole symbol mentioned
  refine complete.exists_nameText (fun name inside => ?_) may
  rw [whole, boundNames_append]
  exact List.mem_append_left _ inside

theorem toProgram_eq (config : Node) :
    d.toProgram config = .ok ⟨d.statements, d.symbols, d.metadata, config⟩ := by
  have objects : ∀ name found, d.symbols.find? name = some found → found.symbol.binding ≠ .value := by
    intro name found held
    rcases complete.sound.kinds name found held with pointer | ⟨inline, -⟩
    · rw [pointer]
      decide
    · rw [inline]
      decide
  exact toProgram_eq_ok_iff.mpr ⟨complete.exists_statementTexts, Symbols.checkOrder_eq_ok objects, rfl⟩

theorem bound_of_user {name : String} (user : name ∈ users) : name ∈ boundNames d.statements := by
  obtain ⟨found, held, pointer⟩ := complete.sound.declared name user
  obtain ⟨definition, defined⟩ := complete.exists_definition held
  exact (complete.sound.bound name).mpr ⟨found, held, pointer, by rw [defined]; rfl⟩

theorem mayMention_of_mentions {before after : List Cpp.Statement} {statement : Cpp.Statement}
    (whole : d.statements = before ++ statement :: after) {symbol : Cpp.Symbol}
    (mentions : d.symbols.Mentions statement symbol) : MayMention users d.symbols before symbol.name := by
  induction mentions with
  | direct member => exact complete.sound.ordered before statement after whole _ member
  | inner _ held inline defined member =>
    -- inline definitions mention names of the user and no others
    rcases complete.sound.kinds _ _ held with pointer | ⟨-, named⟩
    · cases pointer.symm.trans inline
    · exact .inl (named _ defined _ member)

end Draft.Complete

namespace Program

/-- The line that declares the object of a name. -/
def globalLine (s : Symbols) (name : String) : String :=
  (((s.find? name).map fun declaration => declaration.symbol.type.text).getD "") ++ " *" ++ name ++ ";"

/-- The main file up to the global declarations. -/
def heading (p : Program) : String :=
  joinLines (["// Auto generated code by confgen", "#include \"esphomelib/application.h\""] ++
    p.metadata.includes ++ ["", "using namespace esphomelib;"]) ++ (if p.globals.isEmpty then "" else "\n")

theorem preamble_eq (p : Program) : p.preamble = p.heading ++ joinLines p.globals ++ "\n" := by
  rw [preamble, heading]
  cases p.globals with
  | nil => simp [joinLines]
  | cons line rest => simp [String.append_assoc]

end Program

theorem Draft.Complete.globals_eq {users : List String} {d : Draft} (complete : d.Complete users)
    (metadata : Metadata) (config : Node) :
    (Program.mk d.statements d.symbols metadata config).globals =
      (boundNames d.statements).map (Program.globalLine d.symbols) := by
  rw [Program.globals, boundNames, List.map_filterMap]
  refine List.filterMap_congr fun statement member => ?_
  cases bound : statement.bound? with
  | none => rw [Cpp.Statement.global?, bound]; rfl
  | some symbol =>
    have inside : symbol.name ∈ boundNames d.statements :=
      List.mem_filterMap.mpr ⟨statement, member, by rw [bound]; rfl⟩
    obtain ⟨found, held, pointer, -⟩ := (complete.sound.bound _).mp inside
    have own := Symbols.name_of_find? held
    have current : d.symbols.current symbol = found.symbol := by
      rw [Symbols.current, held]
    simp only [Cpp.Statement.global?, bound, Option.bind_some, current, pointer, if_true, Option.map_some,
      Program.globalLine, held, Option.getD_some, own]

namespace Catalog

/-- A checked document becomes a program out of a draft of which nothing is missing, or one of its lambdas
    is at fault. -/
theorem generate_cases {sections : Entries Value} (accepted : Accepted sections) (placement : Placement)
    (path : Path) :
    (∃ draft : Draft, draft.Complete (Value.map sections).declaredNames ∧
      standard.generate placement ⟨path, .map sections⟩ =
        .ok ⟨draft.statements, draft.symbols, draft.metadata, ⟨path, .map sections⟩⟩) ∨
    ∃ e, standard.generate placement ⟨path, .map sections⟩ = .error e ∧
      Lambda.FaultOf (Value.map sections).lambdas e := by
  have yields := yields_buildAll accepted path (placement.paths ⟨path, .map sections⟩)
  rw [Build.Yields] at yields
  rw [generate]
  rcases outcome : (standard.buildAll ⟨path, .map sections⟩).apply
    (.start (placement.paths ⟨path, .map sections⟩)) with ⟨e | done, draft⟩
  · rw [outcome] at yields
    exact .inr ⟨e, rfl, yields⟩
  · rw [outcome] at yields
    exact .inl ⟨draft, yields, yields.toProgram_eq _⟩

/-- A program is made of what building its configuration leaves. -/
theorem exists_draft_of_compile {placement : Placement} {document : Node} {program : Program}
    (compiled : standard.compile placement document = .ok program) :
    standard.check document = .ok program.config ∧ ∃ draft : Draft,
      (standard.buildAll program.config).apply (.start (placement.paths program.config)) = (.ok (), draft) ∧
      program = ⟨draft.statements, draft.symbols, draft.metadata, program.config⟩ := by
  obtain ⟨config, checked, generated⟩ := bind_eq_ok_iff.mp compiled
  rw [generate] at generated
  split at generated
  · rename_i draft outcome
    obtain ⟨-, -, rfl⟩ := Draft.toProgram_eq_ok_iff.mp generated
    exact ⟨checked, draft, outcome, rfl⟩
  · cases generated

theorem complete_of_compile {placement : Placement} {document : Node} {program : Program}
    (compiled : standard.compile placement document = .ok program)
    (differ : document.value.keysDiffer = true) :
    ∃ draft : Draft, draft.Complete program.config.value.declaredNames ∧
      program = ⟨draft.statements, draft.symbols, draft.metadata, program.config⟩ := by
  obtain ⟨config, checked, generated⟩ := bind_eq_ok_iff.mp compiled
  obtain ⟨sections, rfl, accepted⟩ := accepted_of_check checked differ
  rcases generate_cases accepted placement document.path with ⟨draft, complete, same⟩ | ⟨e, failed, -⟩
  · cases generated.symm.trans same
    exact ⟨draft, complete, rfl⟩
  · cases generated.symm.trans failed

/-- Where the samples are built. -/
def samplePlacement : Placement := ⟨"/config", none⟩

/-- Every object is bound by one statement: each that the user named, under its own name, and each that a
    statement mentions. The main file declares just the names that are bound, one after the other. -/
theorem bound_once {placement : Placement} {document : Node} {program : Program}
    (compiled : standard.compile placement document = .ok program)
    (differ : document.value.keysDiffer = true) :
    (boundNames program.statements).Nodup ∧
    (∀ id ∈ program.config.value.ids, id.role = .declared →
      (boundNames program.statements).count id.name = 1) ∧
    (∀ statement ∈ program.statements, ∀ symbol, program.symbols.Mentions statement symbol →
      ¬program.symbols.IsInline symbol.name → (boundNames program.statements).count symbol.name = 1) ∧
    program.globals = (boundNames program.statements).map (Program.globalLine program.symbols) ∧
    ∃ fragment, program.fragment = .ok fragment ∧ program.mainText =
      .ok (program.heading ++ Program.joinLines program.globals ++ "\n" ++ Program.functions fragment) := by
  obtain ⟨draft, complete, whole⟩ := complete_of_compile compiled differ
  generalize program.config = config at complete whole
  subst whole
  have once := complete.sound.once
  obtain ⟨texts, read⟩ := complete.exists_statementTexts
  have fragment : (Program.mk draft.statements draft.symbols draft.metadata config).fragment =
      .ok (Program.joinLines texts) := by
    rw [Program.fragment]
    exact bind_eq_ok_iff.mpr ⟨texts, read, rfl⟩
  refine ⟨once, fun id member declared => ?_, fun statement member symbol mentions object => ?_,
    complete.globals_eq _ _, _, fragment, ?_⟩
  · refine List.count_eq_one_of_mem once (complete.bound_of_user ?_)
    exact List.mem_map_of_mem (List.mem_filter.mpr ⟨member, decide_eq_true declared⟩)
  · obtain ⟨before, after, split⟩ := List.append_of_mem member
    refine List.count_eq_one_of_mem once ?_
    rcases complete.mayMention_of_mentions split mentions with user | inline | bound
    · exact complete.bound_of_user user
    · exact absurd inline object
    · rw [split, boundNames_append]
      exact List.mem_append_left _ bound
  · rw [Program.mainText, fragment, ← Program.preamble_eq]
    rfl

def builtFan : Draft :=
  ((standard.buildAll (Node.atRoot checkedFan)).apply (.start (samplePlacement.paths (Node.atRoot checkedFan)))).2

theorem compile_fan : ∃ program, standard.compile samplePlacement (Node.atRoot fan) = .ok program ∧
    program.statements = builtFan.statements ∧ program.config = Node.atRoot checkedFan := by
  obtain ⟨sections, whole, accepted⟩ := accepted_of_check check_fan rfl
  have yields := yields_buildAll accepted .root (samplePlacement.paths (Node.atRoot checkedFan))
  have succeeds : ((standard.buildAll (Node.atRoot checkedFan)).apply
      (.start (samplePlacement.paths (Node.atRoot checkedFan)))).1.isOk = true := by decide +kernel
  have config : (⟨.root, .map sections⟩ : Node) = Node.atRoot checkedFan := whole.symm
  rw [config, Build.Yields] at yields
  rcases outcome : (standard.buildAll (Node.atRoot checkedFan)).apply
    (.start (samplePlacement.paths (Node.atRoot checkedFan))) with ⟨e | done, draft⟩
  · rw [outcome] at succeeds
    cases succeeds
  · rw [outcome] at yields
    have generated : standard.generate samplePlacement (Node.atRoot checkedFan) =
        .ok ⟨draft.statements, draft.symbols, draft.metadata, Node.atRoot checkedFan⟩ := by
      rw [generate, outcome]
      exact yields.toProgram_eq _
    refine ⟨_, bind_eq_ok_iff.mpr ⟨_, check_fan, generated⟩, ?_, rfl⟩
    rw [builtFan, outcome]

theorem bound_once_fan : ∃ program, standard.compile samplePlacement (Node.atRoot fan) = .ok program ∧
    (boundNames program.statements).Nodup ∧ (boundNames program.statements).count "fan" = 1 := by
  obtain ⟨program, compiled, -, config⟩ := compile_fan
  obtain ⟨differ, declared, -⟩ := bound_once compiled rfl
  have named : ⟨"fan", Switch.templateType, .declared⟩ ∈ program.config.value.ids := by
    rw [config]
    decide +kernel
  exact ⟨program, compiled, differ, declared _ named rfl⟩

/-- Whatever a statement mentions is inline, or the user named it, or an earlier statement binds it. -/
theorem bound_before_use {placement : Placement} {document : Node} {program : Program}
    (compiled : standard.compile placement document = .ok program)
    (differ : document.value.keysDiffer = true) {i : Nat} {statement : Cpp.Statement}
    (here : program.statements[i]? = some statement) {symbol : Cpp.Symbol}
    (mentions : program.symbols.Mentions statement symbol) :
    program.symbols.IsInline symbol.name ∨
    (∃ id ∈ program.config.value.ids, id.role = .declared ∧ id.name = symbol.name) ∨
    ∃ j < i, ∃ earlier bound, program.statements[j]? = some earlier ∧ earlier.bound? = some bound ∧
      bound.name = symbol.name := by
  obtain ⟨draft, complete, whole⟩ := complete_of_compile compiled differ
  generalize program.config = config at complete whole
  subst whole
  obtain ⟨inside, same⟩ := List.getElem?_eq_some_iff.mp here
  -- what is bound before position `i` is bound by one of the first `i` statements
  have split : draft.statements = draft.statements.take i ++ statement :: draft.statements.drop (i + 1) := by
    rw [← same, ← List.drop_eq_getElem_cons, List.take_append_drop]
  rcases complete.mayMention_of_mentions split mentions with user | inline | bound
  · exact .inr (.inl (Value.mem_ids_of_mem_declaredNames user))
  · exact .inl inline
  · obtain ⟨earlier, member, binds⟩ := List.mem_filterMap.mp bound
    obtain ⟨symbolBound, held, named⟩ := Option.map_eq_some_iff.mp binds
    obtain ⟨j, position⟩ := List.mem_iff_getElem?.mp member
    obtain ⟨before, at_j⟩ := List.getElem?_eq_some_iff.mp position
    rw [List.length_take] at before
    rw [List.getElem?_take_of_lt (by omega)] at position
    exact .inr (.inr ⟨j, by omega, earlier, symbolBound, position, held, named⟩)

theorem bound_before_use_fan : ∃ program, standard.compile samplePlacement (Node.atRoot fan) = .ok program ∧
    ∃ symbol : Cpp.Symbol, symbol.name = "startuptrigger" ∧ (program.symbols.IsInline symbol.name ∨
      (∃ id ∈ program.config.value.ids, id.role = .declared ∧ id.name = symbol.name) ∨
      ∃ j < 2, ∃ earlier bound, program.statements[j]? = some earlier ∧ earlier.bound? = some bound ∧
        bound.name = symbol.name) := by
  obtain ⟨program, compiled, built, -⟩ := compile_fan
  have third : (builtFan.statements[2]?.map fun statement => statement.references.map (·.name)) =
      some ["startuptrigger"] := by decide +kernel
  obtain ⟨statement, here, names⟩ := Option.map_eq_some_iff.mp third
  have member : "startuptrigger" ∈ statement.references.map (·.name) := by
    rw [names]
    exact List.mem_singleton_self _
  obtain ⟨symbol, mentioned, named⟩ := List.mem_map.mp member
  rw [← built] at here
  exact ⟨program, compiled, symbol, named, bound_before_use compiled rfl here (.direct mentioned)⟩

end Catalog

end DeviceConfig
