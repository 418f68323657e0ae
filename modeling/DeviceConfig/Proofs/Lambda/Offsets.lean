import DeviceConfig.Proofs.CppType.Offsets
import DeviceConfig.Proofs.Lambda.Spans

/-!
Lambdas read by byte offsets: every part is cut out of the text at two offsets, every difference and every count is
checked, and reading stops where a check fails. It does not stop (`read?_eq`), unless the brackets between the
parameters are more than can be counted (`read?_stops`).
-/

namespace DeviceConfig.Lambda

open Text

section Definitions

/-- Computations that may find a fault, or stop. -/
abbrev Checked (α : Type) : Type := ExceptT Fault Option α

def settled {α : Type} (result : Except Fault α) : Checked α := ExceptT.mk (some result)

/-- A count of open brackets, which has 32 bits and a sign. -/
def counted? (depth : Int) : Option Int := if -2 ^ 31 ≤ depth ∧ depth < 2 ^ 31 then some depth else none

/-- The lines from the first to the last that is not empty, by their places. -/
def contentLines? (lines : List (List Char)) : Option (List (List Char)) :=
  match lines.findIdx? (!·.isEmpty), lines.reverse.findIdx? (!·.isEmpty) with
  | some first, some back => do
    let last ← minus? lines.length (back + 1)
    if first ≤ last + 1 ∧ last < lines.length then some ((lines.take (last + 1)).drop first) else none
  | _, _ => some []

def unindent? (text : List Char) : Option (List Char) := do
  let content ← contentLines? ((Text.lines text).map trimEnd)
  let leads ← (content.filter (!·.isEmpty)).mapM lead?
  return ['\n'].intercalate (content.map (shift (leads.min?.getD 0)))

/-- The offset of the parenthesis that closes the first one of a text; the scan stands at `place`, where `depth` are
    open. -/
def closingPlace? (mode : Mode) (depth place : Nat) : List Char → Option (Option Nat)
  | [] => some none
  | c :: rest =>
    let after := place + c.utf8Size
    if mode.isCode && c == '(' then closingPlace? (mode.next c) (depth + 1) after rest
    else if mode.isCode && c == ')' then do
      let inner ← minus? depth 1
      if inner = 0 then return some place else closingPlace? (mode.next c) inner after rest
    else closingPlace? (mode.next c) depth after rest

/-- The pieces of `list` between the commas outside brackets, from the one that begins at `start`. The scan stands at
    `place` and before `rest`. -/
def piecesFrom? (list : List Char) (depth : Int) (start place : Nat) : List Char → Option (List Piece)
  | [] => (dropBytes? start list).map fun last => [⟨start, last⟩]
  | c :: rest =>
    let after := place + c.utf8Size
    if c == ',' && depth == 0 then do
      let text ← slice? list start place
      return ⟨start, text⟩ :: (← piecesFrom? list depth (place + 1) after rest)
    else do
      let inner ← counted? (depth + depthChange c)
      piecesFrom? list inner start after rest

/-- The parameter that a piece of the list at `origin` writes. -/
def readParameter? (origin : Nat) (earlier : List Cpp.Parameter) (piece : Piece) : Checked Cpp.Parameter := do
  let offset := origin + piece.offset
  let trimmed := trim piece.text
  let lead ← lead? piece.text
  if trimmed.isEmpty then settled (fault .emptyParameter offset (max (byteLength piece.text) 1))
  else
    let place ← minus? (byteLength trimmed) (trimmed.reverse.takeWhile Cpp.isNameChar).length
    let nameChars ← dropBytes? place trimmed
    let typeChars := trim (← slice? trimmed 0 place)
    let name := String.ofList nameChars
    let nameOffset := offset + lead + place
    if nameChars.isEmpty then settled (fault .noParameterName (offset + lead) (byteLength trimmed))
    else if typeChars.isEmpty then settled (fault (.noParameterType name) nameOffset (byteLength nameChars))
    else if nameChars.head?.any Decimal.isDigit then
      settled (fault (.badParameterName name) nameOffset (byteLength nameChars))
    else
      match ← CppType.readChecked? typeChars with
      | none =>
        settled (fault (.unknownParameterType (String.ofList typeChars)) (offset + lead) (byteLength typeChars))
      | some type =>
        if earlier.any (·.name == name) then
          settled (fault (.repeatedParameter name) nameOffset (byteLength nameChars))
        else return ⟨name, type⟩

def readPieces? (origin : Nat) (earlier : List Cpp.Parameter) : List Piece → Checked (List Cpp.Parameter)
  | [] => return earlier
  | piece :: rest => do
    let parameter ← readParameter? origin earlier piece
    readPieces? origin (earlier ++ [parameter]) rest

/-- The parameters between two offsets. -/
def readParameters? (source : List Char) (start finish : Nat) : Checked (List Cpp.Parameter) := do
  let list ← slice? source start finish
  if (trim list).isEmpty then return []
  else
    let pieces ← piecesFrom? list 0 0 0 list
    readPieces? start [] pieces

def ofBody? (source : List Char) : Checked Lambda := do
  settled (requireBalance ⟨0, source⟩)
  return ⟨none, String.ofList (← unindent? source)⟩

/-- The lambda whose parameters stand between two offsets, and whose body is opened at `brace`. -/
def ofHeader? (source : List Char) (start finish : Nat) (result : Option CppType) (brace : Nat) : Checked Lambda :=
  match ((cutAtLast? '\x7d' source).map fun parts => byteLength parts.1).filter (brace < ·) with
  | none => settled (fault .openBody brace 1)
  | some close => do
    let trailing ← dropBytes? (close + 1) source
    if !(trim trailing).isEmpty then
      let lead ← lead? trailing
      settled (fault .textAfterBody (close + 1 + lead) (byteLength (trim trailing)))
    else
      let parameters ← readParameters? source start finish
      let body ← slice? source (brace + 1) close
      settled (requireBalance ⟨brace + 1, body⟩)
      return ⟨some ⟨parameters, result⟩, String.ofList (← unindent? body)⟩

def ofArrow? (source : List Char) (start finish arrow : Nat) (tail : List Char) : Checked Lambda :=
  match (cutAtChar? '\x7b' tail).map fun parts => arrow + 2 + byteLength parts.1 with
  | none => settled (fault .noBody (arrow + 2) (byteLength tail))
  | some brace => do
    let written ← slice? source (arrow + 2) brace
    let content := trim written
    if content.isEmpty then settled (fault .noResultType arrow 2)
    else
      let lead ← lead? written
      match ← CppType.readChecked? content with
      | none => settled (fault (.unknownResultType (String.ofList content)) (arrow + 2 + lead) (byteLength content))
      | some type => ofHeader? source start finish (some type) brace

def read? (source : List Char) : Checked Lambda := do
  let start ← lead? source
  let rest ← dropBytes? start source
  if rest.head? ≠ some '(' then ofBody? source
  else
    match ← closingPlace? .code 0 start rest with
    | none => settled (fault .openHeader start 1)
    | some close =>
      let tail := trimStart (← dropBytes? (close + 1) source)
      let place ← minus? (byteLength source) (byteLength tail)
      if ['-', '>'].isPrefixOf tail then ofArrow? source (start + 1) close place (tail.drop 2)
      else if tail.head? = some '\x7b' then ofHeader? source (start + 1) close none place
      else ofBody? source

end Definitions

section Computations

variable {α β : Type}

@[simp] theorem lift_some_bind (a : α) (next : α → Checked β) : (liftM (some a) : Checked α) >>= next = next a := rfl

theorem settled_bind {result : Except Fault α} {next : α → Checked β} {later : α → Except Fault β}
    (same : ∀ a, next a = settled (later a)) : settled result >>= next = settled (result >>= later) := by
  cases result with
  | error fault => rfl
  | ok a => exact same a

end Computations

section Lines

variable {lines before after : List (List Char)}

theorem findIdx?_eq_none_of_empty (empty : ∀ line ∈ lines, line = []) : lines.findIdx? (!·.isEmpty) = none :=
  List.findIdx?_eq_none_iff.mpr fun line member => by
    rw [empty line member]
    rfl

/-- After empty lines, the first line that is not empty. -/
theorem findIdx?_content {content : List (List Char)} (some : content ≠ []) (empty : ∀ line ∈ before, line = [])
    (starts : ∀ line ∈ content.head?, line ≠ []) :
    (before ++ content ++ after).findIdx? (!·.isEmpty) = Option.some before.length := by
  obtain ⟨first, rest, rfl⟩ := List.exists_cons_of_ne_nil some
  have here : (!first.isEmpty) = true := by simpa using starts first rfl
  simp [List.findIdx?_append, findIdx?_eq_none_of_empty empty, List.findIdx?_cons, here]

theorem contentLines?_eq (lines : List (List Char)) : contentLines? lines = some (contentLines lines) := by
  obtain ⟨before, after, empty, emptyAfter, whole⟩ := exists_empty_around_contentLines lines
  by_cases none : contentLines lines = []
  · have all : ∀ line ∈ lines, line = [] := by
      rw [whole, none, List.append_nil]
      exact List.forall_mem_append.mpr ⟨empty, emptyAfter⟩
    rw [contentLines?, findIdx?_eq_none_of_empty all, none]
  · have first : lines.findIdx? (!·.isEmpty) = some before.length := by
      have found : (before ++ contentLines lines ++ after).findIdx? (!·.isEmpty) = some before.length :=
        findIdx?_content none empty head_contentLines
      rwa [← whole] at found
    have last : lines.reverse.findIdx? (!·.isEmpty) = some after.length := by
      have reversed : lines.reverse = after.reverse ++ (contentLines lines).reverse ++ before.reverse := by
        conv_lhs => rw [whole]
        simp
      rw [reversed, ← List.length_reverse]
      refine findIdx?_content (by simpa using none) ?_ ?_
      · exact fun line member => emptyAfter line (List.mem_reverse.mp member)
      · rw [List.head?_reverse]
        exact last_contentLines
    -- the lines between the two places are the content again
    have length := congrArg List.length whole
    rw [List.length_append, List.length_append] at length
    have positive : 0 < (contentLines lines).length := List.length_pos_iff.mpr none
    have place : minus? lines.length (after.length + 1) = some (before.length + (contentLines lines).length - 1) := by
      rw [minus?, if_pos (by omega)]
      congr 1
      omega
    have finish : before.length + (contentLines lines).length - 1 + 1 = (before ++ contentLines lines).length := by
      rw [List.length_append]
      omega
    have cut : (lines.take (before ++ contentLines lines).length).drop before.length = contentLines lines := by
      have taken : (before ++ contentLines lines ++ after).take (before ++ contentLines lines).length = _ := List.take_left
      rw [← whole] at taken
      rw [taken, List.drop_left]
    rw [contentLines?, first, last]
    simp only [place, Option.bind_eq_bind, Option.bind_some, finish, cut]
    rw [if_pos ⟨by rw [List.length_append]; omega, by omega⟩]

theorem unindent?_eq (text : List Char) : unindent? text = some (unindent text) := by
  have leads (lines : List (List Char)) : lines.mapM lead? = some (lines.map indentation) := by
    rw [CppType.mapM_eq_some_iff, List.forall₂_map_right_iff, List.forall₂_same]
    exact fun line _ => lead?_eq line
  rw [unindent?, contentLines?_eq]
  simp only [Option.bind_eq_bind, Option.bind_some, leads]
  rfl

end Lines

section Parentheses

/-- The place of the parenthesis that closes one more than `depth`. -/
theorem closingPlace?_eq {mode : Mode} {depth place : Nat} {text : List Char} :
    closingPlace? mode (depth + 1) place text =
      some ((closingParen? mode depth text).map fun parts => place + byteLength parts.1) := by
  induction text generalizing mode depth place with
  | nil => rfl
  | cons c rest ih =>
    have step (inner : Nat) : closingPlace? (mode.next c) (inner + 1) (place + c.utf8Size) rest =
        some (((closingParen? (mode.next c) inner rest).map fun parts => (c :: parts.1, parts.2)).map
          fun parts => place + byteLength parts.1) := by
      rw [ih, Option.map_map]
      simp [Function.comp_def, Nat.add_assoc]
    rw [closingPlace?, closingParen?]
    by_cases opens : (mode.isCode && c == '(') = true
    · have noClose : (mode.isCode && c == ')' && depth == 0) = false := by
        obtain ⟨code, rfl⟩ : mode.isCode = true ∧ c = '(' := by simpa using opens
        simp
      simp only [opens, noClose, if_true, step]
      simp
    · by_cases closes : (mode.isCode && c == ')') = true
      · have inner : minus? (depth + 1) 1 = some depth := minus?_add depth 1
        cases depth with
        | zero => simp [opens, closes, inner]
        | succ depth =>
          simp [opens, closes, inner, step]
      · simp [opens, closes, step]

end Parentheses

section Pieces

variable {list before text rest : List Char} {depth : Int}

/-- The brackets that are counted between parameters. -/
def isCounted (c : Char) : Bool := depthChange c != 0

theorem natAbs_depthChange_le (c : Char) : (depthChange c).natAbs ≤ [c].countP isCounted := by
  rw [List.countP_singleton, isCounted, depthChange]
  split
  · rfl
  · split <;> rfl

theorem counted?_of_lt (few : depth.natAbs < 2 ^ 31) : counted? depth = some depth := by
  rw [counted?, if_pos (by omega)]

theorem splitParameters_cons {c : Char} (stays : (c == ',' && depth == 0) = false) (offset : Nat) (rest : List Char) :
    splitParameters depth offset (c :: rest) =
      (splitParameters (depth + depthChange c) (offset + c.utf8Size) rest).modifyHead
        fun piece => ⟨offset, c :: piece.text⟩ := by
  rw [splitParameters, stays]
  simp only [Bool.false_eq_true, if_false]
  cases split : splitParameters (depth + depthChange c) (offset + c.utf8Size) rest with
  | nil => exact absurd split (splitParameters_ne_nil _ _ _)
  | cons piece more => rfl

theorem modifyHead_splitParameters (depth : Int) (offset : Nat) (text : List Char) :
    (splitParameters depth offset text).modifyHead (fun piece => ⟨offset, [] ++ piece.text⟩) =
      splitParameters depth offset text := by
  have first : ∀ piece ∈ (splitParameters depth offset text).head?, piece.offset = offset := offset_head_splitParameters
  cases split : splitParameters depth offset text with
  | nil => rfl
  | cons piece more =>
    rw [split] at first
    rw [List.modifyHead_cons, List.nil_append, ← first piece rfl]

/-- The pieces are those between the commas, if the brackets that are open and those to come can be counted. -/
theorem piecesFrom?_eq (whole : list = before ++ text ++ rest)
    (few : depth.natAbs + rest.countP isCounted < 2 ^ 31) :
    piecesFrom? list depth (byteLength before) (byteLength before + byteLength text) rest =
      some ((splitParameters depth (byteLength before + byteLength text) rest).modifyHead
        fun piece => ⟨byteLength before, text ++ piece.text⟩) := by
  induction rest generalizing before text depth with
  | nil =>
    rw [List.append_nil] at whole
    rw [piecesFrom?, whole, dropBytes?_append]
    simp [splitParameters]
  | cons c rest ih =>
    have counted := natAbs_depthChange_le c
    rw [← List.singleton_append, List.countP_append] at few
    rw [piecesFrom?]
    split
    · rename_i comma
      obtain ⟨rfl, rfl⟩ : c = ',' ∧ depth = 0 := by simpa using comma
      have cut : slice? list (byteLength before) (byteLength before + byteLength text) = some text := by
        rw [whole]
        exact slice?_append before text _
      have next : list = (before ++ text ++ [',']) ++ [] ++ rest := by simp [whole]
      have later := @ih _ _ 0 next (by omega)
      have places : byteLength (before ++ text ++ [',']) = byteLength before + byteLength text + 1 := by
        rw [byteLength_append, byteLength_append]
        rfl
      have narrow : ','.utf8Size = 1 := rfl
      rw [places, byteLength_nil, Nat.add_zero, modifyHead_splitParameters] at later
      rw [cut, narrow, later]
      simp [splitParameters]
    · -- the piece grows by a character; a bracket goes from those to come to those that are open
      rename_i stays
      have next : list = before ++ (text ++ [c]) ++ rest := by simp [whole]
      have later := @ih before (text ++ [c]) (depth + depthChange c) next (by omega)
      rw [byteLength_append, byteLength_cons, byteLength_nil, Nat.add_zero, ← Nat.add_assoc] at later
      rw [counted?_of_lt (by omega), splitParameters_cons (Bool.eq_false_iff.mpr stays)]
      simp [later, List.modifyHead_modifyHead, Function.comp_def]

end Pieces

section Parameters

variable {earlier : List Cpp.Parameter}

theorem byteLength_of_isNameChar {text : List Char} (named : ∀ c ∈ text, Cpp.isNameChar c = true) :
    byteLength text = text.length := by
  induction text with
  | nil => rfl
  | cons c rest ih =>
    obtain ⟨here, later⟩ := List.forall_mem_cons.mp named
    rw [byteLength_cons, Cpp.utf8Size_of_isNameChar here, ih later, List.length_cons, Nat.add_comm]

theorem IsTrimmed.trim_left {before name : List Char} (trimmed : IsTrimmed (before ++ name)) :
    trim before = trimEnd before := by
  rw [trim, trimStart_of_head]
  intro c first
  refine trimmed.1 c ?_
  rw [List.head?_append, Option.mem_def.mp first]
  rfl

theorem readParameter?_eq (origin : Nat) (piece : Piece) :
    readParameter? origin earlier piece = settled (readParameter earlier ⟨origin + piece.offset, piece.text⟩) := by
  obtain ⟨⟨before, name⟩, cut⟩ : ∃ parts, cutName (trim piece.text) = parts := ⟨_, rfl⟩
  have whole : trim piece.text = before ++ name := by
    have parts := append_cutName (trim piece.text)
    rw [cut] at parts
    exact parts.symm
  have ending : (trim piece.text).reverse.takeWhile Cpp.isNameChar = name.reverse := by
    have same : (cutName (trim piece.text)).2 = name := congrArg Prod.snd cut
    rw [← same, cutName, List.reverse_reverse]
  have length : ((trim piece.text).reverse.takeWhile Cpp.isNameChar).length = byteLength name := by
    have named : ∀ c ∈ name, Cpp.isNameChar c = true := by
      intro c member
      rw [← List.mem_reverse, ← ending] at member
      exact List.mem_takeWhile_imp member
    rw [byteLength_of_isNameChar named, ending, List.length_reverse]
  have place : minus? (byteLength (trim piece.text)) (byteLength name) = some (byteLength before) := by
    rw [whole, byteLength_append]
    exact minus?_add _ _
  have nameCut : dropBytes? (byteLength before) (trim piece.text) = some name := by
    rw [whole]
    exact dropBytes?_append before name
  have typeCut : slice? (trim piece.text) 0 (byteLength before) = some before := by
    have found := slice?_append [] before name
    rwa [List.nil_append, byteLength_nil, Nat.zero_add, ← whole] at found
  have trimmed : trim before = trimEnd before := by
    have content := isTrimmed_trim piece.text
    rw [whole] at content
    exact IsTrimmed.trim_left content
  rw [readParameter?, lead?_eq, readParameter]
  simp only [lift_some_bind, length, place, nameCut, typeCut, trimmed, cut, CppType.readChecked?_eq]
  have read : CppType.ofText? (String.ofList (trimEnd before)) = CppType.read? (trimEnd before) := by
    rw [CppType.ofText?, String.toList_ofList]
  rw [read]
  cases CppType.read? (trimEnd before) with
  | none => simp only [apply_ite settled]
  | some type =>
    simp only [apply_ite settled]
    rfl

theorem readPieces?_eq (origin : Nat) (pieces : List Piece) :
    readPieces? origin earlier pieces =
      settled (readPieces earlier (pieces.map fun piece => ⟨origin + piece.offset, piece.text⟩)) := by
  induction pieces generalizing earlier with
  | nil => rfl
  | cons piece rest ih =>
    rw [readPieces?, readParameter?_eq, List.map_cons, readPieces]
    cases readParameter earlier ⟨origin + piece.offset, piece.text⟩ with
    | error fault => rfl
    | ok parameter => exact ih

theorem map_splitParameters (origin : Nat) (depth : Int) (offset : Nat) (text : List Char) :
    (splitParameters depth offset text).map (fun piece => (⟨origin + piece.offset, piece.text⟩ : Piece)) =
      splitParameters depth (origin + offset) text := by
  induction text generalizing depth offset with
  | nil => rfl
  | cons c rest ih =>
    cases cut : (c == ',' && depth == 0) with
    | true =>
      rw [splitParameters, splitParameters, cut]
      simp [ih, Nat.add_assoc]
    | false =>
      rw [splitParameters_cons cut, splitParameters_cons cut, Nat.add_assoc, ← ih]
      cases splitParameters (depth + depthChange c) (offset + c.utf8Size) rest <;> rfl

/-- The text of a piece, cut out at its two offsets. -/
theorem Piece.StandsIn.slice? {source : List Char} {piece : Piece} (stands : piece.StandsIn source) :
    Text.slice? source piece.offset (piece.offset + byteLength piece.text) = some piece.text := by
  obtain ⟨after, before, whole, start⟩ := stands
  rw [whole, start, ← List.append_assoc]
  exact slice?_append _ _ _

theorem readParameters?_eq {source : List Char} {inside : Piece} (stands : inside.StandsIn source)
    (few : source.countP isCounted < 2 ^ 31) :
    readParameters? source inside.offset (inside.offset + byteLength inside.text) = settled (readParameters inside) := by
  have part : inside.text.countP isCounted ≤ source.countP isCounted := by
    obtain ⟨after, before, whole, -⟩ := stands
    rw [whole, List.countP_append, List.countP_append]
    omega
  have pieces := @piecesFrom?_eq inside.text [] [] inside.text 0 rfl (by omega)
  rw [byteLength_nil, Nat.zero_add, modifyHead_splitParameters] at pieces
  rw [readParameters?, stands.slice?, readParameters]
  simp only [lift_some_bind, trim_isEmpty, pieces, readPieces?_eq, map_splitParameters, apply_ite settled]
  rfl

end Parameters

section Headers

variable {source : List Char}

theorem Piece.Ends.dropBytes? {piece : Piece} (ends : piece.Ends source) :
    Lambda.dropBytes? piece.offset source = some piece.text := by
  obtain ⟨before, whole, start⟩ := ends
  rw [whole, start]
  exact dropBytes?_append _ _

theorem Piece.Ends.minus? {piece : Piece} (ends : piece.Ends source) :
    Text.minus? (byteLength source) (byteLength piece.text) = some piece.offset := by
  obtain ⟨before, whole, start⟩ := ends
  rw [whole, start, byteLength_append]
  exact minus?_add _ _

theorem ofBody?_eq (source : List Char) : ofBody? source = settled (ofBody source) :=
  settled_bind fun _ => by
    rw [unindent?_eq]
    rfl

/-- The last closing brace of a text, if it stands after the opening one. -/
theorem lastBrace_eq {brace : Nat} {rest : List Char} (ends : (⟨brace, '\x7b' :: rest⟩ : Piece).Ends source) :
    ((cutAtLast? '\x7d' source).map fun parts => byteLength parts.1).filter (brace < ·) =
      (cutAtLast? '\x7d' rest).map fun parts => brace + 1 + byteLength parts.1 := by
  obtain ⟨before, whole, start⟩ := ends
  dsimp only at whole start
  cases cut : cutAtLast? '\x7d' rest with
  | some parts =>
    obtain ⟨body, trailing⟩ := parts
    obtain ⟨same, last⟩ := eq_of_cutAtLast? cut
    have found : cutAtLast? '\x7d' source = some (before ++ '\x7b' :: body, trailing) := by
      rw [cutAtLast?_eq_some_iff, whole, same]
      exact ⟨by simp, last⟩
    have place : byteLength (before ++ '\x7b' :: body) = brace + 1 + byteLength body := by
      rw [byteLength_append, byteLength_cons, start, ← Nat.add_assoc]
      rfl
    rw [found]
    simp [place]
    omega
  | none =>
    have absent : '\x7d' ∉ '\x7b' :: rest := by simpa using cutAtLast?_eq_none_iff.mp cut
    cases earlier : cutAtLast? '\x7d' before with
    | none =>
      have none : cutAtLast? '\x7d' source = none := by
        rw [cutAtLast?_eq_none_iff, whole, List.mem_append, not_or]
        exact ⟨cutAtLast?_eq_none_iff.mp earlier, absent⟩
      rw [none]
      rfl
    | some parts =>
      obtain ⟨first, second⟩ := parts
      obtain ⟨same, last⟩ := eq_of_cutAtLast? earlier
      have found : cutAtLast? '\x7d' source = some (first, second ++ '\x7b' :: rest) := by
        rw [cutAtLast?_eq_some_iff, whole, same, List.mem_append, not_or]
        exact ⟨by simp, last, absent⟩
      have place : byteLength first ≤ brace := by
        rw [start, same, byteLength_append]
        exact Nat.le_add_right _ _
      rw [found]
      simp [place]

/-- What is checked of a header apart from its parameters does not stop. -/
theorem ofHeader?_eq_readParameters? {start finish brace : Nat} {result : Option CppType} {rest : List Char}
    (ends : (⟨brace, '\x7b' :: rest⟩ : Piece).Ends source) :
    ofHeader? source start finish result brace =
      match cutAtLast? '\x7d' rest with
      | none => settled (fault .openBody brace 1)
      | some (body, trailing) =>
        if !trailing.all isBlank then
          settled (fault .textAfterBody (brace + 2 + byteLength body + indentation trailing) (byteLength (trim trailing)))
        else
          readParameters? source start finish >>= fun parameters => settled (do
            requireBalance ⟨brace + 1, body⟩
            return ⟨some ⟨parameters, result⟩, String.ofList (unindent body)⟩) := by
  rw [ofHeader?, lastBrace_eq ends]
  cases cut : cutAtLast? '\x7d' rest with
  | none => rfl
  | some parts =>
    obtain ⟨body, trailing⟩ := parts
    obtain ⟨whole, -⟩ := eq_of_cutAtLast? cut
    rw [whole] at ends
    have inner : (⟨brace + 1, body⟩ : Piece).StandsIn source := (ends.tail rfl).left
    have after : (⟨brace + 2 + byteLength body, trailing⟩ : Piece).Ends source := ends.after_between rfl rfl
    have place : brace + 1 + byteLength body + 1 = brace + 2 + byteLength body := by omega
    have drop := after.dropBytes?
    have slice := inner.slice?
    dsimp only at drop slice
    dsimp only [Option.map_some]
    simp only [place, drop, slice, lift_some_bind, trim_isEmpty, lead?_eq]
    split
    · rfl
    · congr 1
      funext parameters
      exact settled_bind fun _ => by
        rw [unindent?_eq]
        rfl

theorem ofHeader?_eq {parameters : Piece} {brace : Nat} {result : Option CppType} {rest : List Char}
    (ends : (⟨brace, '\x7b' :: rest⟩ : Piece).Ends source) (inside : parameters.StandsIn source)
    (few : source.countP isCounted < 2 ^ 31) :
    ofHeader? source parameters.offset (parameters.offset + byteLength parameters.text) result brace =
      settled (ofHeader parameters result brace rest) := by
  rw [ofHeader?_eq_readParameters? ends, readParameters?_eq inside few, ofHeader]
  cases cutAtLast? '\x7d' rest with
  | none => rfl
  | some parts =>
    obtain ⟨body, trailing⟩ := parts
    dsimp only
    split
    · rfl
    · exact settled_bind fun _ => rfl

theorem ofArrow?_eq {parameters : Piece} {arrow : Nat} {tail : List Char}
    (ends : (⟨arrow, '-' :: '>' :: tail⟩ : Piece).Ends source) (inside : parameters.StandsIn source)
    (few : source.countP isCounted < 2 ^ 31) :
    ofArrow? source parameters.offset (parameters.offset + byteLength parameters.text) arrow tail =
      settled (ofArrow parameters arrow tail) := by
  have after : (⟨arrow + 2, tail⟩ : Piece).Ends source := Piece.Ends.right (a := ['-', '>']) ends
  rw [ofArrow?, ofArrow]
  cases cut : cutAtChar? '\x7b' tail with
  | none => rfl
  | some parts =>
    obtain ⟨written, rest⟩ := parts
    obtain ⟨whole, -⟩ := eq_of_cutAtChar? cut
    rw [whole] at after
    have slice := after.left.slice?
    dsimp only at slice
    have read : CppType.ofText? (String.ofList (trim written)) = CppType.read? (trim written) := by
      rw [CppType.ofText?, String.toList_ofList]
    dsimp only [Option.map_some]
    simp only [slice, lift_some_bind, lead?_eq, CppType.readChecked?_eq, read]
    cases CppType.read? (trim written) with
    | none => simp only [apply_ite settled]
    | some type =>
      simp only [apply_ite settled]
      rw [ofHeader?_eq after.right inside few]

end Headers

theorem closingPlace?_first (place : Nat) (inside : List Char) :
    closingPlace? .code 0 place ('(' :: inside) =
      some ((closingParen? .code 0 inside).map fun parts => place + 1 + byteLength parts.1) :=
  closingPlace?_eq

/-- The parentheses of a header are found where they stand. -/
theorem read?_of_closed {source inside written after : List Char} (header : trimStart source = '(' :: inside)
    (closed : closingParen? .code 0 inside = some (written, after)) :
    read? source =
      let start := indentation source
      let place := start + 2 + byteLength written + indentation after
      let tail := trimStart after
      if ['-', '>'].isPrefixOf tail then ofArrow? source (start + 1) (start + 1 + byteLength written) place (tail.drop 2)
      else if tail.head? = some '\x7b' then ofHeader? source (start + 1) (start + 1 + byteLength written) none place
      else ofBody? source := by
  have start := (Piece.Ends.self source).trimStart
  rw [Nat.zero_add, header] at start
  have drop := start.dropBytes?
  have follows : (⟨indentation source + 2 + byteLength written, after⟩ : Piece).Ends source := by
    rw [append_closingParen? closed] at start
    exact start.after_between rfl rfl
  have dropTail := follows.dropBytes?
  have minus := follows.trimStart.minus?
  have place : indentation source + 1 + byteLength written + 1 = indentation source + 2 + byteLength written := by omega
  dsimp only at drop dropTail minus
  rw [read?, lead?_eq]
  simp only [lift_some_bind, drop, List.head?_cons, ne_eq, not_true_eq_false, if_false, closingPlace?_first, closed,
    Option.map_some, place, dropTail, minus]

/-- No check fails, unless there are too many brackets to count. -/
theorem read?_eq (text : String) (few : text.toList.countP isCounted < 2 ^ 31) :
    read? text.toList = settled (read text) := by
  have start := (Piece.Ends.self text.toList).trimStart
  rw [Nat.zero_add] at start
  rw [read]
  dsimp only
  split
  · rename_i inside header
    rw [header] at start
    split
    · rename_i none
      have drop := start.dropBytes?
      dsimp only at drop
      rw [read?, lead?_eq]
      simp only [lift_some_bind, drop, List.head?_cons, ne_eq, not_true_eq_false, if_false, closingPlace?_first, none]
      rfl
    · rename_i written after closed
      rw [append_closingParen? closed] at start
      have parameters : (⟨indentation text.toList + 1, written⟩ : Piece).StandsIn text.toList := (start.tail rfl).left
      have ends := (start.after_between rfl rfl).trimStart
      rw [read?_of_closed header closed]
      dsimp only
      split
      · rename_i arrow
        obtain ⟨tail, whole⟩ := List.isPrefixOf_iff_prefix.mp arrow
        rw [← whole] at ends ⊢
        have same := ofArrow?_eq ends parameters few
        dsimp only [List.cons_append, List.nil_append, List.drop_succ_cons, List.drop_zero] at same ⊢
        exact same
      split
      · rename_i brace
        obtain ⟨tail, whole⟩ := List.head?_eq_some_iff.mp brace
        rw [whole] at ends ⊢
        have same := @ofHeader?_eq _ _ _ none _ ends parameters few
        dsimp only at same ⊢
        exact same
      · rename_i noArrow noBrace
        split
        · rename_i arrow
          exact absurd (by rw [arrow]; rfl) noArrow
        · rename_i brace
          exact absurd (by rw [brace]; rfl) noBrace
        · exact ofBody?_eq _
  · rename_i noHeader
    have drop := start.dropBytes?
    dsimp only at drop
    have other : (trimStart text.toList).head? ≠ some '(' := by
      intro first
      obtain ⟨inside, header⟩ := List.head?_eq_some_iff.mp first
      exact noHeader inside header
    rw [read?, lead?_eq]
    simp only [lift_some_bind, drop, other, ne_eq, not_false_eq_true, if_true]
    exact ofBody?_eq _

end DeviceConfig.Lambda
