import DeviceConfig.Proofs.CppType.Printing
import DeviceConfig.Proofs.Lambda.Reading
import Mathlib

/-!
Headers that are written are read again (`read_withBody`), and so is what was read (`read_withBody_inverse`).
-/

namespace DeviceConfig.Lambda

open Text
open CppType (IsNested IsTextOf isTypeChar isPlain)

/-- A header as it is written. -/
def Header.text (header : Header) : String :=
  let parameters := "(" ++ join ", " (header.parameters.map (·.text)) ++ ")"
  match header.result with
  | some type => parameters ++ " -> " ++ type.text
  | none => parameters

/-- A header and a body as they are written. -/
def Header.withBody (header : Header) (body : String) : String := header.text ++ " \x7b" ++ body ++ "\x7d"

theorem closingParen?_append {text after : List Char} (written : ∀ c ∈ text, isTypeChar c = true) :
    closingParen? .code 0 (text ++ ')' :: after) = some (text, after) := by
  induction text with
  | nil => rfl
  | cons c rest ih =>
    obtain ⟨here, later⟩ := List.forall_mem_cons.mp written
    have noOpen : c ≠ '(' := ne_of_test here (by decide)
    have noClose : c ≠ ')' := ne_of_test here (by decide)
    have noQuote : c ≠ '"' := ne_of_test here (by decide)
    have noTick : c ≠ '\'' := ne_of_test here (by decide)
    have noSlash : c ≠ '/' := ne_of_test here (by decide)
    have code : Mode.code.next c = .code := by simp [Mode.next, Mode.afterCode, noQuote, noTick, noSlash]
    simp [closingParen?, code, noOpen, noClose, ih later]

section Splitting

/-- The texts of the pieces, wherever they stand. -/
def pieceTexts (depth : Int) : List Char → List (List Char)
  | [] => [[]]
  | c :: rest =>
    if c == ',' && depth == 0 then [] :: pieceTexts depth rest
    else (pieceTexts (depth + depthChange c) rest).modifyHead ([c] ++ ·)

variable {depth : Int} {rest : List Char}

theorem splitParameters_ne_nil (depth : Int) (offset : Nat) (text : List Char) :
    splitParameters depth offset text ≠ [] := by
  cases text with
  | nil => simp [splitParameters]
  | cons c rest =>
    rw [splitParameters]
    split
    · simp
    · split <;> simp

theorem map_text_splitParameters (depth : Int) (offset : Nat) (text : List Char) :
    (splitParameters depth offset text).map (·.text) = pieceTexts depth text := by
  induction text generalizing depth offset with
  | nil => rfl
  | cons c rest ih =>
    rw [splitParameters, pieceTexts]
    split
    · rw [List.map_cons, ih]
    · rw [← ih (depth + depthChange c) (offset + c.utf8Size)]
      cases split : splitParameters (depth + depthChange c) (offset + c.utf8Size) rest with
      | nil => exact absurd split (splitParameters_ne_nil _ _ rest)
      | cons piece more => rfl

theorem pieceTexts_comma : pieceTexts 0 (',' :: rest) = [] :: pieceTexts 0 rest := by
  simp [pieceTexts]

theorem pieceTexts_cons {c : Char} (stays : c = ',' → depth ≠ 0) :
    pieceTexts depth (c :: rest) = (pieceTexts (depth + depthChange c) rest).modifyHead ([c] ++ ·) := by
  rw [pieceTexts, if_neg]
  simpa using stays

theorem depthChange_of_isPlain {c : Char} (plain : isPlain c = true) : depthChange c = 0 := by
  have noBracket (other : Char) (fails : isPlain other = false) : c ≠ other := ne_of_test plain fails
  simp [depthChange, noBracket '<' rfl, noBracket '>' rfl, noBracket '(' rfl, noBracket ')' rfl]

theorem pieceTexts_append {inside : Bool} {a : List Char} (nested : IsNested inside a) (outer : 0 ≤ depth)
    (deep : inside = true → 0 < depth) :
    pieceTexts depth (a ++ rest) = (pieceTexts depth rest).modifyHead (a ++ ·) := by
  induction nested generalizing depth rest with
  | char c plain =>
    rw [List.singleton_append, pieceTexts_cons fun comma => absurd comma (ne_of_test plain rfl), depthChange_of_isPlain plain]
    simp
  | comma =>
    -- inside brackets the depth is positive, so that a comma does not cut
    have here := deep rfl
    rw [List.singleton_append, pieceTexts_cons fun _ => by omega]
    simp [depthChange]
  | append _ _ first second =>
    rw [List.append_assoc, first outer deep, second outer deep]
    simp [List.modifyHead_modifyHead, Function.comp_def]
  | brackets _ between =>
    have opened : depthChange '<' = 1 := rfl
    have closed : depthChange '>' = -1 := rfl
    rw [List.append_assoc, List.cons_append, pieceTexts_cons (by simp), opened, between (by omega) fun _ => by omega,
      List.singleton_append, pieceTexts_cons (by simp), closed, Int.add_neg_cancel_right]
    simp [List.modifyHead_modifyHead, Function.comp_def]

theorem pieceTexts_intercalate {first : List Char} {others : List (List Char)} (here : IsNested false first)
    (later : ∀ part ∈ others, IsNested false part) :
    pieceTexts 0 ([',', ' '].intercalate (first :: others)) = first :: others.map ([' '] ++ ·) := by
  induction others generalizing first with
  | nil =>
    rw [List.intercalate_singleton, ← List.append_nil first, pieceTexts_append here (by omega) nofun]
    rfl
  | cons next rest ih =>
    obtain ⟨second, others⟩ := List.forall_mem_cons.mp later
    -- the blank that follows a comma becomes part of the next piece
    have padded : IsNested false ([' '] ++ next) := .append (.char ' ' rfl) second
    rw [List.intercalate_cons_cons, List.append_assoc, pieceTexts_append here (by omega) nofun, List.cons_append,
      pieceTexts_comma, ← CppType.intercalate_append_cons, ih padded others]
    simp

end Splitting

section Parameters

/-- A parameter whose text can be read. -/
structure IsWritable (p : Cpp.Parameter) : Prop where
  type : IsTextOf p.type.text.toList p.type
  name : Cpp.isName p.name = true

theorem cutName_append {before name : List Char} (named : ∀ c ∈ name, Cpp.isNameChar c = true) :
    cutName (before ++ [' '] ++ name) = (before ++ [' '], name) := by
  have reversed : ∀ c ∈ name.reverse, Cpp.isNameChar c = true := fun c member => named c (List.mem_reverse.mp member)
  have blank : Cpp.isNameChar ' ' = false := by decide
  rw [cutName, List.reverse_append, List.dropWhile_append_of_pos reversed, List.takeWhile_append_of_pos reversed]
  simp [blank]

section Written

variable {p : Cpp.Parameter}

theorem toList_parameterText (p : Cpp.Parameter) : p.text.toList = p.type.text.toList ++ [' '] ++ p.name.toList := by
  simp [Cpp.Parameter.text]

theorem IsWritable.isTrimmed (writable : IsWritable p) : IsTrimmed p.text.toList := by
  obtain ⟨some, named, -⟩ := Cpp.chars_of_isName writable.name
  have nameTrimmed : IsTrimmed p.name.toList :=
    ⟨fun c first => Cpp.isBlank_of_isNameChar (named c (List.mem_of_mem_head? first)),
      fun c last => Cpp.isBlank_of_isNameChar (named c (List.mem_of_mem_getLast? last))⟩
  rw [toList_parameterText]
  exact writable.type.trimmed.around nameTrimmed writable.type.visible some [' ']

theorem parameterText_ne_nil (p : Cpp.Parameter) : p.text.toList ≠ [] := by
  simp [toList_parameterText]

theorem IsWritable.isTypeChar (writable : IsWritable p) : ∀ c ∈ p.text.toList, isTypeChar c = true := by
  obtain ⟨-, named, -⟩ := Cpp.chars_of_isName writable.name
  have nameChars : ∀ c ∈ p.name.toList, CppType.isTypeChar c = true := fun c member => by
    simp [CppType.isTypeChar, CppType.isWordChar, named c member]
  rw [toList_parameterText]
  simpa [or_imp, forall_and] using ⟨writable.type.chars, (by decide : CppType.isTypeChar ' ' = true), nameChars⟩

theorem IsWritable.isNested (writable : IsWritable p) : IsNested false p.text.toList := by
  obtain ⟨some, named, -⟩ := Cpp.chars_of_isName writable.name
  have nameNested : IsNested false p.name.toList := CppType.isNested_of_plain some fun c member =>
    CppType.isPlain_of_isWordChar (by simp [CppType.isWordChar, named c member])
  rw [toList_parameterText]
  exact .append (.append writable.type.nested (.char ' ' rfl)) nameNested

theorem IsWritable.readParameter_eq (writable : IsWritable p) {earlier : List Cpp.Parameter} {piece : Piece}
    (content : trim piece.text = p.text.toList) (free : p.name ∉ earlier.map (·.name)) :
    readParameter earlier piece = .ok p := by
  obtain ⟨nonempty, named, noDigit⟩ := Cpp.chars_of_isName writable.name
  have visible : trim piece.text ≠ [] := by simp [content, toList_parameterText]
  have cut : cutName (trim piece.text) = (p.type.text.toList ++ [' '], p.name.toList) := by
    rw [content, toList_parameterText, cutName_append named]
  have typeChars : trimEnd (p.type.text.toList ++ [' ']) = p.type.text.toList := by
    rw [trimEnd, List.reverse_append]
    exact trimEnd_of_last writable.type.trimmed.2
  have typeRead : CppType.ofText? p.type.text = some p.type := writable.type.read
  have fresh : earlier.any (·.name == p.name) = false := by simpa using free
  simp [readParameter, visible, cut, typeChars, typeRead, fresh, nonempty, noDigit, writable.type.visible]

end Written

theorem readPieces_eq {pieces : List Piece} {earlier parameters : List Cpp.Parameter}
    (written : List.Forall₂ (fun piece p => trim piece.text = p.text.toList) pieces parameters)
    (writable : ∀ p ∈ parameters, IsWritable p) (differ : ((earlier ++ parameters).map (·.name)).Nodup) :
    readPieces earlier pieces = .ok (earlier ++ parameters) := by
  induction written generalizing earlier with
  | nil => simp [readPieces]
  | @cons piece p pieces parameters content _ ih =>
    obtain ⟨here, later⟩ := List.forall_mem_cons.mp writable
    have shifted : earlier ++ p :: parameters = earlier ++ [p] ++ parameters := by simp
    have free : p.name ∉ earlier.map (·.name) := by
      rw [List.map_append, List.map_cons] at differ
      exact fun member => (List.disjoint_of_nodup_append differ) member (List.mem_cons_self ..)
    rw [readPieces, here.readParameter_eq content free, shifted]
    exact ih later (shifted ▸ differ)

def parameterTexts (parameters : List Cpp.Parameter) : List Char :=
  [',', ' '].intercalate (parameters.map (·.text.toList))

variable {parameters : List Cpp.Parameter}

theorem isTypeChar_parameterTexts (writable : ∀ p ∈ parameters, IsWritable p) :
    ∀ c ∈ parameterTexts parameters, isTypeChar c = true :=
  CppType.forall_mem_intercalate (List.all_eq_true.mp rfl) (List.forall_mem_map.mpr fun p member => (writable p member).isTypeChar)

theorem readParameters_eq (writable : ∀ p ∈ parameters, IsWritable p) (differ : (parameters.map (·.name)).Nodup)
    (offset : Nat) : readParameters ⟨offset, parameterTexts parameters⟩ = .ok parameters := by
  cases parameters with
  | nil => rfl
  | cons first others =>
    obtain ⟨here, later⟩ := List.forall_mem_cons.mp writable
    have visible : (parameterTexts (first :: others)).all isBlank = false := by
      have start := CppType.intercalate_append_cons [',', ' '] first.text.toList [] (others.map (·.text.toList))
      rw [List.append_nil] at start
      rw [parameterTexts, List.map_cons, start, List.all_append,
        here.isTrimmed.not_all_blank (parameterText_ne_nil first), Bool.false_and]
    have texts : (splitParameters 0 offset (parameterTexts (first :: others))).map (·.text) =
        first.text.toList :: (others.map (·.text.toList)).map ([' '] ++ ·) := by
      rw [map_text_splitParameters]
      exact pieceTexts_intercalate here.isNested (List.forall_mem_map.mpr fun p member => (later p member).isNested)
    have written : List.Forall₂ (fun text p => trim text = p.text.toList)
        ((splitParameters 0 offset (parameterTexts (first :: others))).map (·.text)) (first :: others) := by
      rw [texts, List.map_map]
      refine .cons here.isTrimmed.trim_eq ?_
      rw [List.forall₂_map_left_iff, List.forall₂_same]
      exact fun p member => (later p member).isTrimmed.trim_space
    simp only [readParameters, visible, Bool.false_eq_true, if_false]
    exact readPieces_eq (List.forall₂_map_left_iff.mp written) writable differ

end Parameters

section Headers

variable {header : Header}

theorem Header.WellFormed.isWritable (wellFormed : header.WellFormed) : ∀ p ∈ header.parameters, IsWritable p := by
  intro p member
  obtain ⟨_, readable⟩ := wellFormed.types p member
  exact ⟨(CppType.wellFormed_of_read? readable).isTextOf, wellFormed.names p member⟩

/-- The arrow and the result type of a header, if it has one. -/
def resultText (result : Option CppType) : List Char :=
  result.elim [] fun type => ' ' :: '-' :: '>' :: ' ' :: type.text.toList

theorem toList_parametersText (parameters : List Cpp.Parameter) :
    (join ", " (parameters.map (·.text))).toList = parameterTexts parameters := by
  simp [join, parameterTexts, String.toList_intercalate, Function.comp_def]

theorem toList_withBody (header : Header) (body : String) :
    (header.withBody body).toList =
      '(' :: (parameterTexts header.parameters ++
        ')' :: (resultText header.result ++ ' ' :: '{' :: (body.toList ++ ['}']))) := by
  cases result : header.result with
  | none => simp [Header.withBody, Header.text, resultText, result, toList_parametersText]
  | some type => simp [Header.withBody, Header.text, resultText, result, toList_parametersText]

section Reading

variable {text : String} {inside rest : List Char} (written : ∀ c ∈ inside, isTypeChar c = true)
include written

theorem read_eq_ofHeader (source : text.toList = '(' :: (inside ++ ')' :: ' ' :: '\x7b' :: rest)) :
    ∃ offset brace, read text = ofHeader ⟨offset, inside⟩ none brace rest := by
  have start : trimStart text.toList = '(' :: (inside ++ ')' :: ' ' :: '\x7b' :: rest) := by
    rw [source]
    rfl
  have brace : trimStart (' ' :: '\x7b' :: rest) = '\x7b' :: rest := rfl
  simp only [read, start, closingParen?_append written, brace]
  exact ⟨_, _, rfl⟩

theorem read_eq_ofArrow (source : text.toList = '(' :: (inside ++ ')' :: ' ' :: '-' :: '>' :: rest)) :
    ∃ offset arrow, read text = ofArrow ⟨offset, inside⟩ arrow rest := by
  have start : trimStart text.toList = '(' :: (inside ++ ')' :: ' ' :: '-' :: '>' :: rest) := by
    rw [source]
    rfl
  have arrow : trimStart (' ' :: '-' :: '>' :: rest) = '-' :: '>' :: rest := rfl
  simp only [read, start, closingParen?_append written, arrow]
  exact ⟨_, _, rfl⟩

end Reading

theorem ofArrow_eq_ofHeader {type : CppType} (held : IsTextOf type.text.toList type) (parameters : Piece) (arrow : Nat)
    (rest : List Char) :
    ∃ brace, ofArrow parameters arrow (' ' :: (type.text.toList ++ ' ' :: '\x7b' :: rest)) =
      ofHeader parameters (some type) brace rest := by
  have noBrace : '\x7b' ∉ [' '] ++ type.text.toList ++ [' '] := by
    have absent : '\x7b' ∉ type.text.toList := fun member => ne_of_test (held.chars _ member) (by decide) rfl
    simpa using absent
  have cut : cutAtChar? '\x7b' (' ' :: (type.text.toList ++ ' ' :: '\x7b' :: rest)) =
      some ([' '] ++ type.text.toList ++ [' '], rest) :=
    cutAtChar?_eq_some_iff.mpr ⟨by simp, noBrace⟩
  have content : trim ([' '] ++ type.text.toList ++ [' ']) = type.text.toList :=
    held.trimmed.trim_padded blank_space blank_space
  have typeRead : CppType.ofText? type.text = some type := held.read
  simp only [ofArrow, cut, content, String.ofList_toList, typeRead, List.isEmpty_eq_false_iff.mpr held.visible,
    Bool.false_eq_true, if_false]
  exact ⟨_, rfl⟩

/-- A well-formed header is read again before any body in balance. -/
theorem read_withBody {body : String} (wellFormed : header.WellFormed) (balanced : IsBalanced body.toList) :
    read (header.withBody body) = .ok ⟨some header, String.ofList (unindent body.toList)⟩ := by
  obtain ⟨parameters, result⟩ := header
  have source := toList_withBody ⟨parameters, result⟩ body
  have written := isTypeChar_parameterTexts wellFormed.isWritable
  have parametersRead := readParameters_eq wellFormed.isWritable wellFormed.differ
  -- whatever braces the body has, the last one is that of the block
  have cut : cutAtLast? '\x7d' (body.toList ++ ['\x7d']) = some (body.toList, []) :=
    cutAtLast?_eq_some_iff.mpr ⟨rfl, List.not_mem_nil⟩
  have finish (offset brace : Nat) : ofHeader ⟨offset, parameterTexts parameters⟩ result brace (body.toList ++ ['\x7d']) =
      .ok ⟨some ⟨parameters, result⟩, String.ofList (unindent body.toList)⟩ :=
    ofHeader_eq_ok_iff.mpr ⟨_, _, _, cut, rfl, parametersRead offset, balanced, rfl⟩
  cases result with
  | none =>
    obtain ⟨offset, brace, same⟩ := read_eq_ofHeader written source
    rw [same, finish]
  | some type =>
    obtain ⟨_, readable⟩ := wellFormed.result type rfl
    have held := (CppType.wellFormed_of_read? readable).isTextOf
    obtain ⟨offset, arrow, same⟩ := read_eq_ofArrow written source
    obtain ⟨brace, last⟩ := ofArrow_eq_ofHeader held ⟨offset, parameterTexts parameters⟩ arrow (body.toList ++ ['\x7d'])
    rw [same, ← finish offset brace, ← last]
    simp

end Headers

/-- Writing a header and reading it are inverse: whatever is well formed is read as it was written, and whatever was
    read is read again from how it is written. -/
theorem read_withBody_inverse :
    (∀ (header : Header) (body : String), header.WellFormed → IsBalanced body.toList →
      read (header.withBody body) = .ok ⟨some header, String.ofList (unindent body.toList)⟩) ∧
    ∀ (text : String) (header : Header) (body : String), read text = .ok ⟨some header, body⟩ →
      read (header.withBody body) = .ok ⟨some header, body⟩ := by
  refine ⟨fun header body => read_withBody, fun text header body accepted => ?_⟩
  obtain ⟨⟨written, balanced, same⟩, wellFormed⟩ := read_gives accepted
  have unindented : body = String.ofList (unindent written) := same
  have again : IsBalanced body.toList := by
    rw [unindented, String.toList_ofList]
    exact balanced.unindent
  have stable : String.ofList (unindent body.toList) = body := by
    rw [unindented, String.toList_ofList, unindent_unindent]
  have reread := read_withBody (wellFormed header rfl) again
  rwa [stable] at reread

theorem read_withBody_inverse_pointer :
    read "(const  char *s,optional< float >x)->bool\x7b return x; // \x7d\x7d" =
        .ok ⟨some ⟨[⟨"s", .constCharPointer⟩, ⟨"x", .optional .float⟩], some .bool⟩, "return x; // \x7d"⟩ ∧
      read (Header.withBody ⟨[⟨"s", .constCharPointer⟩, ⟨"x", .optional .float⟩], some .bool⟩ "return x; // \x7d") =
        .ok ⟨some ⟨[⟨"s", .constCharPointer⟩, ⟨"x", .optional .float⟩], some .bool⟩, "return x; // \x7d"⟩ ∧
      read (Header.withBody ⟨[⟨"x", .float⟩], some .bool⟩ " return x > 0; ") =
        .ok ⟨some ⟨[⟨"x", .float⟩], some .bool⟩, String.ofList (unindent " return x > 0; ".toList)⟩ := by
  have accepted : read "(const  char *s,optional< float >x)->bool\x7b return x; // \x7d\x7d" =
      .ok ⟨some ⟨[⟨"s", .constCharPointer⟩, ⟨"x", .optional .float⟩], some .bool⟩, "return x; // \x7d"⟩ := by
    cbv
  have float : IsReadable .float := ⟨"float", by cbv⟩
  have bool : IsReadable .bool := ⟨"bool", by cbv⟩
  have wellFormed : Header.WellFormed ⟨[⟨"x", .float⟩], some .bool⟩ :=
    ⟨by decide, by simpa using float, by simp, by simpa using bool⟩
  have balanced : IsBalanced " return x > 0; ".toList := by cbv
  exact ⟨accepted, read_withBody_inverse.2 _ _ _ accepted, read_withBody_inverse.1 _ _ wellFormed balanced⟩

end DeviceConfig.Lambda
