import DeviceConfig.Proofs.Lambda.Calls
import DeviceConfig.Proofs.Lambda.Capture
import DeviceConfig.Proofs.Lambda.Reading
import Mathlib

/-!
What becomes of the body of a lambda: the calls of `id` that are written without a gap stand for objects, wherever they
are written, and all else is kept (`define_rewrites`). These are the calls that the program means just if each such
place is a token of the code and each call is written so.
-/

namespace DeviceConfig.Lambda

open Build Text

/-- A body is made of characters and of places that stand for objects. -/
inductive Part where
  | char (c : Char)
  | object (name : String) (access : Bool)

/-- The text is cut into the calls that are taken for objects and the characters around them; `before` stands before
    the text. -/
inductive Cut (IsTaken : (before call : List Char) → Prop) : (before text : List Char) → List Part → Prop
  | nil {before : List Char} : Cut IsTaken before [] []
  | object {before call rest : List Char} {name : String} {access : Bool} {parts : List Part}
      (isCall : IsCall call rest name access) (taken : IsTaken before call)
      (later : Cut IsTaken (before ++ call) rest parts) : Cut IsTaken before (call ++ rest) (.object name access :: parts)
  | char {before : List Char} {c : Char} {rest : List Char} {parts : List Part}
      (none : ∀ call later name access, c :: rest = call ++ later → IsCall call later name access → ¬IsTaken before call)
      (later : Cut IsTaken (before ++ [c]) rest parts) : Cut IsTaken before (c :: rest) (.char c :: parts)

/-- The call is written on one line, with no gap before the parenthesis. -/
def IsCompact (call : List Char) : Prop := ['i', 'd', '('] <+: call ∧ '\n' ∉ call

/-- What starts after this text is code, and no part of a longer name. -/
def IsToken (before : List Char) : Prop :=
  (Mode.code.after before).isCode = true ∧ ∀ c ∈ before.getLast?, Cpp.isNameChar c = false

/-- The compact calls, wherever they stand. -/
abbrev Written (text : List Char) (parts : List Part) : Prop := Cut (fun _ call => IsCompact call) [] text parts

/-- The calls of the code, however they are written. -/
abbrev Meant (text : List Char) (parts : List Part) : Prop := Cut (fun before _ => IsToken before) [] text parts

section Cuts

variable {IsTaken other : List Char → List Char → Prop} {before text : List Char} {parts : List Part}

theorem IsCall.findCall?_eq {call rest : List Char} {name : String} {access : Bool} (isCall : IsCall call rest name access) :
    findCall? (call ++ rest) = some ⟨name, access, rest⟩ := findCall?_eq_some_iff.mpr ⟨call, rfl, isCall⟩

theorem IsCall.ne_nil {call rest : List Char} {name : String} {access : Bool} (isCall : IsCall call rest name access) :
    call ≠ [] := by
  obtain ⟨_, _, _, _, _, rfl, _⟩ := isCall
  exact List.cons_ne_nil _ _

theorem IsCall.unique {call rest call' rest' : List Char} {name name' : String} {access access' : Bool}
    (isCall : IsCall call rest name access) (isCall' : IsCall call' rest' name' access')
    (same : call ++ rest = call' ++ rest') : call = call' ∧ rest = rest' ∧ name = name' ∧ access = access' := by
  have found := isCall.findCall?_eq
  rw [same, isCall'.findCall?_eq] at found
  cases found
  exact ⟨List.append_cancel_right same, rfl, rfl, rfl⟩

theorem Cut.object_inv {name : String} {access : Bool} (cut : Cut IsTaken before text (.object name access :: parts)) :
    ∃ call rest, text = call ++ rest ∧ IsCall call rest name access ∧ IsTaken before call ∧
      Cut IsTaken (before ++ call) rest parts := by
  cases cut with
  | object isCall taken later => exact ⟨_, _, rfl, isCall, taken, later⟩

theorem Cut.char_inv {c : Char} (cut : Cut IsTaken before text (.char c :: parts)) :
    ∃ rest, text = c :: rest ∧
      (∀ call later name access, c :: rest = call ++ later → IsCall call later name access → ¬IsTaken before call) ∧
      Cut IsTaken (before ++ [c]) rest parts := by
  cases cut with
  | char none later => exact ⟨_, rfl, none, later⟩

theorem Cut.unique {parts' : List Part} (cut : Cut IsTaken before text parts) (cut' : Cut IsTaken before text parts') :
    parts = parts' := by
  induction cut generalizing parts' with
  | nil =>
    generalize empty : ([] : List Char) = text at cut'
    cases cut' with
    | nil => rfl
    | object isCall => exact absurd (List.append_eq_nil_iff.mp empty.symm).1 isCall.ne_nil
    | char => cases empty
  | @object before call rest name access parts isCall taken _ ih =>
    generalize whole : call ++ rest = text at cut'
    cases cut' with
    | nil => exact absurd (List.append_eq_nil_iff.mp whole).1 isCall.ne_nil
    | object isCall' _ later' =>
      obtain ⟨rfl, rfl, rfl, rfl⟩ := isCall.unique isCall' whole
      rw [ih later']
    | char none => exact absurd taken (none call rest name access whole.symm isCall)
  | @char before c rest parts none _ ih =>
    generalize whole : c :: rest = text at cut'
    cases cut' with
    | nil => cases whole
    | object isCall taken => exact absurd taken (none _ _ _ _ whole isCall)
    | char _ later' =>
      cases whole
      rw [ih later']

/-- What is taken for an object only matters at the calls. -/
theorem Cut.congr (cut : Cut IsTaken before text parts)
    (agree : ∀ middle call rest name access, text = middle ++ (call ++ rest) → IsCall call rest name access →
      (IsTaken (before ++ middle) call ↔ other (before ++ middle) call)) :
    Cut other before text parts := by
  induction cut with
  | nil => exact .nil
  | @object before call rest name access parts isCall taken _ ih =>
    refine .object isCall ?_ (ih fun middle inner later name access whole isCall => ?_)
    · have here := agree [] call rest name access rfl isCall
      rw [List.append_nil] at here
      exact here.mp taken
    · have there := agree (call ++ middle) inner later name access (by rw [whole, List.append_assoc]) isCall
      rwa [← List.append_assoc] at there
  | @char before c rest parts none _ ih =>
    refine .char (fun call later name access same isCall taken => ?_) (ih fun middle inner later name access whole isCall => ?_)
    · have here := agree [] call later name access same isCall
      rw [List.append_nil] at here
      exact none call later name access same isCall (here.mpr taken)
    · have there := agree ([c] ++ middle) inner later name access (by rw [whole]; rfl) isCall
      rwa [← List.append_assoc] at there

/-- If two notions cut a text alike, they take the same calls: none starts inside of another. -/
theorem Cut.agree (cut : Cut IsTaken before text parts) (cut' : Cut other before text parts) {middle call rest : List Char}
    {name : String} {access : Bool} (whole : text = middle ++ (call ++ rest)) (isCall : IsCall call rest name access) :
    IsTaken (before ++ middle) call ↔ other (before ++ middle) call := by
  induction cut generalizing middle with
  | nil =>
    have empty := List.append_eq_nil_iff.mp (List.append_eq_nil_iff.mp whole.symm).2
    exact absurd empty.1 isCall.ne_nil
  | @object before first remains firstName firstAccess parts isFirst taken _ ih =>
    obtain ⟨_, _, same, isFirst', taken', later'⟩ := cut'.object_inv
    obtain ⟨rfl, rfl, -, -⟩ := isFirst.unique isFirst' same
    -- the other call starts after the first one, where it ends, with it, or inside of it
    rcases List.append_eq_append_iff.mp whole with ⟨more, rfl, beyond⟩ | ⟨inside, rfl, beyond⟩
    · have there := ih later' beyond
      rwa [List.append_assoc] at there
    · by_cases ended : inside = []
      · subst ended
        have next : remains = [] ++ (call ++ rest) := beyond.symm
        simpa using ih later' next
      · by_cases begun : middle = []
        · subst begun
          obtain ⟨rfl, -⟩ := isCall.unique isFirst beyond
          rw [List.append_nil]
          exact iff_of_true taken taken'
        · have absent := isFirst.findCall?_inside begun ended
          rw [← beyond, isCall.findCall?_eq] at absent
          cases absent
  | @char before c remains parts none _ ih =>
    obtain ⟨_, same, none', later'⟩ := cut'.char_inv
    cases same
    cases middle with
    | nil =>
      rw [List.append_nil]
      exact ⟨fun taken => absurd taken (none _ _ _ _ whole isCall), fun taken => absurd taken (none' _ _ _ _ whole isCall)⟩
    | cons first middle =>
      cases whole
      have there := ih later' rfl
      rwa [List.append_assoc] at there

end Cuts

section Fragments

def Fragment.parts : Fragment → List Part
  | .text chars => chars.map .char
  | .object name access => [.object name access]

def lineParts (line : List Char) : List Part := (fragments line).flatMap Fragment.parts

/-- The parts of the lines, and the line feeds between them. -/
def bodyParts (ls : List (List Char)) : List Part := [Part.char '\n'].intercalate (ls.map lineParts)

theorem parts_addChar (c : Char) (fragments : List Fragment) :
    (addChar c fragments).flatMap Fragment.parts = .char c :: fragments.flatMap Fragment.parts := by
  cases fragments with
  | nil => rfl
  | cons first rest =>
    cases first with
    | text chars => rfl
    | object name access => rfl

theorem findCall?_compact {text : List Char} (compact : ['i', 'd', '('] <+: text) : findCall? text = call? text := by
  obtain ⟨inside, rfl⟩ := compact
  rfl

theorem exists_compact_of_call? {line : List Char} {call : Call} (found : call? line = some call) :
    ∃ taken, line = taken ++ call.rest ∧ IsCall taken call.rest call.name call.access ∧ ['i', 'd', '('] <+: taken := by
  obtain ⟨start, finish, blank, named, whole, noPoint⟩ := call?_eq_some_iff.mp found
  refine ⟨'i' :: 'd' :: argument start call.name finish call.access, whole, ⟨[], start, finish, blank, named, rfl, noPoint⟩, ?_⟩
  exact ⟨_, rfl⟩

theorem lineParts_of_call {line : List Char} {call : Call} (found : call? line = some call) :
    lineParts line = .object call.name call.access :: lineParts call.rest := by
  unfold lineParts
  rw [fragments]
  split
  · rename_i other held
    cases found.symm.trans held
    rfl
  · rename_i none
    cases found.symm.trans none

theorem lineParts_cons {c : Char} {rest : List Char} (none : call? (c :: rest) = none) :
    lineParts (c :: rest) = .char c :: lineParts rest := by
  unfold lineParts
  rw [fragments]
  split
  · rename_i call found
    cases none.symm.trans found
  · exact parts_addChar c (fragments rest)

theorem exists_of_compact {line rest call later : List Char} (oneLine : '\n' ∉ call) (ends : ∀ c ∈ rest.head?, c = '\n')
    (same : line ++ rest = call ++ later) : ∃ left, line = call ++ left ∧ later = left ++ rest := by
  rcases List.append_eq_append_iff.mp same with ⟨more, whole, remains⟩ | ⟨left, whole, remains⟩
  · cases more with
    | nil => exact ⟨[], by simpa using whole.symm, by simpa using remains.symm⟩
    | cons c more =>
      have feed : c = '\n' := ends c (by rw [remains]; rfl)
      exact absurd (by rw [whole, feed]; simp) oneLine
  · exact ⟨left, whole, remains⟩

theorem call?_of_isCompact {call left rest : List Char} {name : String} {access : Bool} (compact : IsCompact call)
    (isCall : IsCall call (left ++ rest) name access) : call? (call ++ left) = some ⟨name, access, left⟩ := by
  have here : IsCall call left name access := isCall.follow fun first => by rw [List.head?_append, first]; rfl
  rw [← findCall?_compact (compact.1.trans (List.prefix_append call left))]
  exact findCall?_eq_some_iff.mpr ⟨call, rfl, here⟩

/-- A line is cut where its calls are found, whatever follows it on later lines. -/
theorem cut_line {line rest before : List Char} {parts : List Part} (oneLine : '\n' ∉ line)
    (ends : ∀ c ∈ rest.head?, c = '\n') (later : Cut (fun _ call => IsCompact call) (before ++ line) rest parts) :
    Cut (fun _ call => IsCompact call) before (line ++ rest) (lineParts line ++ parts) := by
  induction line using fragments.induct generalizing before with
  | case1 line call found ih =>
    obtain ⟨taken, whole, isCall, starts⟩ := exists_compact_of_call? found
    -- what follows the line begins with a line feed, so it adds no point to the call
    have points : (call.rest ++ rest).head? = some '.' → call.rest.head? = some '.' := by
      intro first
      cases held : call.rest with
      | nil =>
        rw [held] at first
        cases ends _ first
      | cons c more =>
        rw [held] at first
        exact first
    rw [lineParts_of_call found]
    rw [whole] at oneLine later ⊢
    obtain ⟨noFeed, noFeedRest⟩ := not_or.mp (List.mem_append.not.mp oneLine)
    rw [List.append_assoc]
    refine .object (isCall.follow points) ⟨starts, noFeed⟩ (ih noFeedRest ?_)
    rwa [List.append_assoc]
  | case2 none =>
    have noParts : lineParts [] = [] := by
      unfold lineParts
      rw [fragments]
      split
      · rename_i found
        cases none.symm.trans found
      · rfl
    rw [noParts]
    simpa using later
  | case3 c line none ih =>
    rw [lineParts_cons none]
    obtain ⟨-, noFeed⟩ := not_or.mp (List.mem_cons.not.mp oneLine)
    refine .char ?_ (ih noFeed (by simpa using later))
    -- a compact call ends on the line on which it starts, and would have been found there
    intro call rest' name access same isCall compact
    have onLine : (c :: line) ++ rest = call ++ rest' := same
    obtain ⟨left, whole, rfl⟩ := exists_of_compact compact.2 ends onLine
    have found := call?_of_isCompact compact isCall
    rw [← whole] at found
    cases none.symm.trans found

theorem cut_body {ls : List (List Char)} (oneLine : ∀ line ∈ ls, '\n' ∉ line) (before : List Char) :
    Cut (fun _ call => IsCompact call) before (['\n'].intercalate ls) (bodyParts ls) := by
  induction ls generalizing before with
  | nil => exact .nil
  | cons line rest ih =>
    obtain ⟨here, others⟩ := List.forall_mem_cons.mp oneLine
    cases rest with
    | nil =>
      have last := cut_line here (by simp) (@Cut.nil (fun _ call => IsCompact call) (before ++ line))
      simpa [bodyParts] using last
    | cons next rest =>
      have feed : ∀ call later name access, '\n' :: ['\n'].intercalate (next :: rest) = call ++ later →
          IsCall call later name access → ¬IsCompact call := by
        rintro call later name access same ⟨_, _, _, _, _, rfl, _⟩
        cases same
      have later := Cut.char feed (ih others (before ++ line ++ ['\n']))
      have whole := cut_line here (by simp) later
      simpa [bodyParts, List.intercalate_cons_cons] using whole

end Fragments

section Texts

variable (resolve : String → Except CompileError Cpp.Symbol) (s : Symbols)
  (nameText : Cpp.Symbol → Except CompileError String)

/-- A part as it is written out: an object by the text of its symbol and, for a member, the mark of its binding. -/
def Part.text : Part → Except CompileError String
  | .char c => .ok (String.singleton c)
  | .object name access => do
    let symbol ← resolve name
    let text ← nameText symbol
    return text ++ (if access then Cpp.accessMark s (.reference symbol) else "")

def partsText : List Part → Except CompileError String
  | [] => .ok ""
  | part :: rest => do
    let text ← part.text resolve s nameText
    let later ← partsText rest
    return text ++ later

theorem partsText_append (a b : List Part) :
    partsText resolve s nameText (a ++ b) = (do
      let first ← partsText resolve s nameText a
      let second ← partsText resolve s nameText b
      return first ++ second) := by
  induction a with
  | nil =>
    rw [List.nil_append, partsText]
    cases partsText resolve s nameText b with
    | error e => rfl
    | ok text => exact congrArg Except.ok (String.empty_append).symm
  | cons part rest ih =>
    rw [List.cons_append, partsText, partsText, ih]
    cases part.text resolve s nameText with
    | error e => rfl
    | ok here =>
      cases partsText resolve s nameText rest with
      | error e => rfl
      | ok first =>
        cases partsText resolve s nameText b with
        | error e => rfl
        | ok second => exact congrArg Except.ok (String.append_assoc ..).symm

theorem partsText_chars (chars : List Char) :
    partsText resolve s nameText (chars.map .char) = .ok (String.ofList chars) := by
  induction chars with
  | nil => rfl
  | cons c rest ih =>
    rw [List.map_cons, partsText, Part.text, ih]
    exact congrArg Except.ok (by rw [String.singleton_eq_ofList, ← String.ofList_append]; rfl)

end Texts

/-- The lines of a body as they are written out. -/
def bodyText (s : Symbols) (nameText : Cpp.Symbol → Except CompileError String) (body : List Cpp.Statement) :
    Except CompileError String := do
  let texts ← Cpp.bodyTexts s nameText body
  return String.intercalate "\n" texts

section Rendering

variable {defined s : Symbols} {nameText : Cpp.Symbol → Except CompileError String}

theorem textWith_fragmentExpr {fragment : Fragment} {expr : Cpp.Expr} (resolved : fragmentExpr defined fragment = .ok expr) :
    expr.textWith s nameText = partsText defined.resolve s nameText fragment.parts := by
  cases fragment with
  | text chars =>
    cases resolved
    exact (partsText_chars _ _ _ chars).symm
  | object name access =>
    obtain ⟨symbol, found, same⟩ := bind_eq_ok_iff.mp resolved
    cases same
    rw [Fragment.parts, partsText, partsText, Part.text, found]
    cases access with
    | false =>
      cases written : nameText symbol <;>
        simp [Bind.bind, Except.bind, Pure.pure, Except.pure, Cpp.Expr.textWith, written]
    | true =>
      cases written : nameText symbol <;>
        simp [Bind.bind, Except.bind, Pure.pure, Except.pure, Cpp.Expr.accessed, Cpp.Expr.textWith, written]

theorem argTexts_fragmentExprs {fragments : List Fragment} {exprs : List Cpp.Expr}
    (resolved : fragmentExprs defined fragments = .ok exprs) :
    (do let texts ← Cpp.argTexts s nameText exprs; return String.join texts) =
      partsText defined.resolve s nameText (fragments.flatMap Fragment.parts) := by
  induction fragments generalizing exprs with
  | nil =>
    cases resolved
    rfl
  | cons fragment rest ih =>
    obtain ⟨expr, here, later⟩ := bind_eq_ok_iff.mp resolved
    obtain ⟨exprs, others, same⟩ := bind_eq_ok_iff.mp later
    cases same
    rw [List.flatMap_cons, partsText_append, ← textWith_fragmentExpr here, ← ih others]
    simp [Cpp.argTexts, String.join_cons]

theorem bodyText_cons (first second : Cpp.Statement) (rest : List Cpp.Statement) :
    bodyText s nameText (first :: second :: rest) = (do
      let text ← first.textWith s nameText
      let later ← bodyText s nameText (second :: rest)
      return text ++ ("\n" ++ later)) := by
  rw [bodyText, bodyText, Cpp.bodyTexts, Cpp.bodyTexts]
  cases first.textWith s nameText with
  | error e => rfl
  | ok text =>
    cases second.textWith s nameText with
    | error e => rfl
    | ok next =>
      cases Cpp.bodyTexts s nameText rest with
      | error e => rfl
      | ok texts => exact congrArg Except.ok (String.intercalate_cons_cons.trans (String.append_assoc ..))

theorem bodyText_bodyStatements {ls : List (List Char)} {body : List Cpp.Statement}
    (resolved : bodyStatements defined ls = .ok body) :
    bodyText s nameText body = partsText defined.resolve s nameText (bodyParts ls) := by
  induction ls generalizing body with
  | nil =>
    cases resolved
    rfl
  | cons line rest ih =>
    obtain ⟨exprs, here, later⟩ := bind_eq_ok_iff.mp resolved
    obtain ⟨body, others, same⟩ := bind_eq_ok_iff.mp later
    cases same
    have first : (Cpp.Statement.line (.concat exprs)).textWith s nameText =
        partsText defined.resolve s nameText (lineParts line) := by
      rw [lineParts, ← argTexts_fragmentExprs here]
      rfl
    cases rest with
    | nil =>
      cases others
      rw [bodyParts, List.map_singleton, List.intercalate_singleton, ← first, bodyText, Cpp.bodyTexts, Cpp.bodyTexts]
      cases (Cpp.Statement.line (.concat exprs)).textWith s nameText with
      | error e => rfl
      | ok text => exact congrArg Except.ok String.intercalate_singleton
    | cons next rest =>
      have parts : bodyParts (line :: next :: rest) = lineParts line ++ (['\n'].map .char ++ bodyParts (next :: rest)) := by
        simp [bodyParts, List.intercalate_cons_cons]
      obtain ⟨_, _, more⟩ := bind_eq_ok_iff.mp others
      obtain ⟨statements, _, same⟩ := bind_eq_ok_iff.mp more
      cases same
      rw [parts, partsText_append, partsText_append, partsText_chars, ← first, ← ih others, bodyText_cons]
      cases (Cpp.Statement.line (.concat exprs)).textWith s nameText with
      | error e => rfl
      | ok text =>
        cases bodyText s nameText (.line (.concat _) :: statements) with
        | error e => rfl
        | ok later => rfl

end Rendering

section Resolution

variable {s : Symbols} {name : String} {access : Bool}

theorem object_mem_lineParts {line : List Char} :
    Part.object name access ∈ lineParts line ↔ Fragment.object name access ∈ fragments line := by
  rw [lineParts, List.mem_flatMap]
  constructor
  · rintro ⟨fragment, member, inside⟩
    cases fragment with
    | text chars => simp [Fragment.parts] at inside
    | object =>
      cases List.mem_singleton.mp inside
      exact member
  · exact fun member => ⟨_, member, List.mem_singleton_self _⟩

theorem object_mem_bodyParts {ls : List (List Char)} :
    Part.object name access ∈ bodyParts ls ↔ ∃ line ∈ ls, Fragment.object name access ∈ fragments line := by
  induction ls with
  | nil => simp [bodyParts]
  | cons line rest ih =>
    rw [List.exists_mem_cons_iff, ← ih, ← object_mem_lineParts]
    cases rest with
    | nil => simp [bodyParts]
    | cons next rest => simp [bodyParts, List.intercalate_cons_cons]

theorem fragmentExprs_cases (list : List Fragment) :
    (∃ exprs, fragmentExprs s list = .ok exprs ∧
      ∀ name access, Fragment.object name access ∈ list → ∃ symbol, s.resolve name = .ok symbol) ∨
    ∃ name access e, Fragment.object name access ∈ list ∧ s.resolve name = .error e ∧ fragmentExprs s list = .error e := by
  induction list with
  | nil => exact .inl ⟨[], rfl, by simp⟩
  | cons fragment rest ih =>
    cases fragment with
    | text chars =>
      rcases ih with ⟨exprs, read, known⟩ | ⟨name, access, e, member, unknown, failed⟩
      · exact .inl ⟨.raw (String.ofList chars) :: exprs, by rw [fragmentExprs, read]; rfl, by simpa using known⟩
      · exact .inr ⟨name, access, e, List.mem_cons_of_mem _ member, unknown, by rw [fragmentExprs, failed]; rfl⟩
    | object name access =>
      cases resolved : s.resolve name with
      | error e =>
        exact .inr ⟨name, access, e, List.mem_cons_self .., resolved, by rw [fragmentExprs, fragmentExpr, resolved]; rfl⟩
      | ok symbol =>
        rcases ih with ⟨exprs, read, known⟩ | ⟨other, itsAccess, e, member, unknown, failed⟩
        · refine .inl ⟨_, by rw [fragmentExprs, fragmentExpr, resolved, read]; rfl, ?_⟩
          simpa [or_imp, forall_and, resolved] using known
        · exact .inr ⟨other, itsAccess, e, List.mem_cons_of_mem _ member, unknown,
            by rw [fragmentExprs, fragmentExpr, resolved, failed]; rfl⟩

theorem bodyStatements_cases (ls : List (List Char)) :
    (∃ body, bodyStatements s ls = .ok body ∧
      ∀ name access, Part.object name access ∈ bodyParts ls → ∃ symbol, s.resolve name = .ok symbol) ∨
    ∃ name access e, Part.object name access ∈ bodyParts ls ∧ s.resolve name = .error e ∧ bodyStatements s ls = .error e := by
  simp only [object_mem_bodyParts]
  induction ls with
  | nil => exact .inl ⟨[], rfl, by simp⟩
  | cons line rest ih =>
    rcases @fragmentExprs_cases s (fragments line) with ⟨exprs, here, known⟩ | ⟨name, access, e, member, unknown, failed⟩
    · rcases ih with ⟨body, others, knownToo⟩ | ⟨name, access, e, ⟨line', inside, member⟩, unknown, failed⟩
      · refine .inl ⟨.line (.concat exprs) :: body, by rw [bodyStatements, here, others]; rfl, ?_⟩
        rintro name access ⟨line', inside, member⟩
        rcases List.mem_cons.mp inside with rfl | inside
        · exact known name access member
        · exact knownToo name access ⟨line', inside, member⟩
      · exact .inr ⟨name, access, e, ⟨line', List.mem_cons_of_mem _ inside, member⟩, unknown,
          by rw [bodyStatements, here, failed]; rfl⟩
    · exact .inr ⟨name, access, e, ⟨line, List.mem_cons_self .., member⟩, unknown, by rw [bodyStatements, failed]; rfl⟩

end Resolution

theorem resolve_error_eq {s : Symbols} {name : String} {e : CompileError} (failed : s.resolve name = .error e) :
    e = .undeclared name s.component (Entries.keys s.aliases) := by
  rw [Symbols.resolve] at failed
  split at failed
  · cases failed
  · cases failed
    rfl

/-- A lambda that was declared is defined unless its body mentions an object that is not declared. Its body is cut at
    the compact calls; each becomes the text of its object and the rest is kept. These are the calls that the body
    means just if each compact call is a token of the code and each other call is none. -/
theorem define_rewrites {source : String} {path : Path} {expected : List Cpp.Parameter} {result : Option CppType}
    {pending : Pending} {d between later : Draft} {found : Declaration}
    (declared : (declare source path expected result).apply d = (.ok pending, between))
    (held : later.symbols.find? pending.symbol.name = some found) (undefined : found.definition = none) :
    ∃ parts, Written pending.body.toList parts ∧
      (Meant pending.body.toList parts ↔ ∀ before call rest name access,
        pending.body.toList = before ++ (call ++ rest) → IsCall call rest name access →
          (IsCompact call ↔ IsToken before)) ∧
      ((∃ last changed body, pending.define.apply later = (.ok pending.reference, last) ∧
          last.symbols.find? pending.symbol.name = some changed ∧
          changed.definition = some (.lambda "=" pending.parameters pending.result body) ∧
          (∀ name access, .object name access ∈ parts → ∃ symbol, later.symbols.resolve name = .ok symbol) ∧
          ∀ s nameText, bodyText s nameText body = partsText later.symbols.resolve s nameText parts) ∨
        ∃ name access, .object name access ∈ parts ∧ (∀ symbol, later.symbols.resolve name ≠ .ok symbol) ∧
          pending.define.apply later =
            (.error (.undeclared name later.symbols.component (Entries.keys later.symbols.aliases)), later)) := by
  obtain ⟨lambda, accepted, -, same⟩ := declare_gives declared
  obtain ⟨⟨written, -, unindented⟩, -⟩ := read_gives accepted
  have body : pending.body.toList = unindent written := by rw [same, unindented, String.toList_ofList]
  have whole : ['\n'].intercalate (lines pending.body.toList) = pending.body.toList := by
    rw [body, lines_unindent]
    rfl
  have cut := cut_body (fun line (member : line ∈ lines pending.body.toList) => notMem_of_mem_lines member) []
  rw [whole] at cut
  refine ⟨_, cut, ⟨fun meant before call rest name access split isCall => ?_, fun agree => ?_⟩, ?_⟩
  · exact cut.agree meant split isCall
  · exact cut.congr agree
  · rcases bodyStatements_cases (lines pending.body.toList) with ⟨body, resolved, known⟩ | ⟨name, access, e, member, unknown, failed⟩
    · have done := Symbols.define_eq held undefined (.lambda "=" pending.parameters pending.result body)
      obtain ⟨_, -, -, now⟩ := Symbols.find?_define done
      refine .inl ⟨_, _, body, apply_defineLambda resolved done, now, rfl, known, fun s nameText => ?_⟩
      exact bodyText_bodyStatements resolved
    · cases resolve_error_eq unknown
      refine .inr ⟨name, access, member, fun symbol known => ?_, ?_⟩
      · cases unknown.symm.trans known
      · simp only [Pending.define, apply_bind, apply_ofSymbols, failed]

section Names

/-- A body without a call of `id`, but of a function whose name ends so. -/
def validCode : String := "return is_valid(relay);"

theorem readAt_validCode :
    readAt validCode .root [⟨"x", .float⟩] (some .bool) = .ok (⟨[⟨"x", .float⟩], some .bool⟩, validCode) := by
  cbv

theorem bodyStatements_validCode :
    bodyStatements (relayDraft.symbols.declare "lambda" type .inline).2 (lines validCode.toList) =
      .ok [.line (.concat [.raw "return is_val", .reference ⟨"relay", .named "switch_::Switch", .pointer⟩, .raw ";"])] := by
  cbv

def validPending : Pending := ⟨⟨"lambda", type, .inline⟩, [⟨"x", .float⟩], some .bool, validCode⟩

def validDraft : Draft := { relayDraft with symbols := (relayDraft.symbols.declare "lambda" type .inline).2 }

theorem declare_validCode :
    (declare validCode .root [⟨"x", .float⟩] (some .bool)).apply relayDraft = (.ok validPending, validDraft) :=
  apply_declare readAt_validCode relayDraft

theorem find?_validDraft : validDraft.symbols.find? validPending.symbol.name =
    some ⟨⟨"lambda", type, .inline⟩, none, "core"⟩ := by
  rfl

theorem define_rewrites_validCode :
    (declare validCode .root [⟨"x", .float⟩] (some .bool)).apply relayDraft = (.ok validPending, validDraft) ∧
      validDraft.symbols.find? validPending.symbol.name = some ⟨⟨"lambda", type, .inline⟩, none, "core"⟩ ∧
      ∃ parts, Written validPending.body.toList parts ∧
        (Meant validPending.body.toList parts ↔ ∀ before call rest name access,
          validPending.body.toList = before ++ (call ++ rest) → IsCall call rest name access →
            (IsCompact call ↔ IsToken before)) := by
  obtain ⟨parts, written, meant, -⟩ := define_rewrites declare_validCode find?_validDraft rfl
  exact ⟨declare_validCode, find?_validDraft, parts, written, meant⟩

theorem isCall_relay : IsCall "id(relay)".toList ";".toList "relay" false :=
  ⟨[], [], [], by simp, by decide, rfl, fun _ => by decide⟩

/-- The end of a longer name is taken for a call of `id`. -/
theorem not_meant_validCode :
    ∃ last changed body parts,
      (declare validCode .root [⟨"x", .float⟩] (some .bool)).apply relayDraft = (.ok validPending, validDraft) ∧
        validPending.define.apply validDraft = (.ok validPending.reference, last) ∧
        last.symbols.find? validPending.symbol.name = some changed ∧
        changed.definition = some (.lambda "=" validPending.parameters validPending.result body) ∧
        bodyText last.symbols (fun symbol => .ok symbol.name) body = .ok "return is_valrelay;" ∧
        Written validCode.toList parts ∧ ¬Meant validCode.toList parts := by
  have done (definition : Cpp.Expr) := Symbols.define_eq find?_validDraft rfl definition
  obtain ⟨_, -, -, now⟩ := Symbols.find?_define (done _)
  have cut := cut_body (fun line (member : line ∈ lines validCode.toList) => notMem_of_mem_lines member) []
  refine ⟨_, _, _, _, declare_validCode, apply_defineLambda bodyStatements_validCode (done _), now, rfl, ?_, cut,
    fun meant => ?_⟩
  · cbv
  · have split : validCode.toList = "return is_val".toList ++ ("id(relay)".toList ++ ";".toList) := by decide
    have compact : IsCompact "id(relay)".toList := by
      constructor <;> decide
    have token : IsToken ([] ++ "return is_val".toList) := (cut.agree meant split isCall_relay).mp compact
    have ends := token.2 'l' (by decide)
    revert ends
    decide

end Names

end DeviceConfig.Lambda
