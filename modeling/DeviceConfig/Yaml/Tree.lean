import DeviceConfig.Yaml.Token

/-!
From tokens to the tree of a document. Nodes still have their anchors, aliases and tags, and scalars
their text.

Each function reads from the front of the tokens and gives what is left with a proof that it is not
longer, which is why reading ends.
-/

namespace DeviceConfig.Yaml

structure Properties (α : Type) where
  anchor : Option α
  tag : Option TagText
  deriving Repr, Inhabited

/-- A node whose anchors and aliases are written as `α`. -/
inductive Tree (α : Type) where
  | repeated (target : α)
  | scalar (properties : Properties α) (text : String) (isPlain : Bool)
  | sequence (properties : Properties α) (items : List (Tree α))
  | mapping (properties : Properties α) (entries : List (Tree α × Tree α))
  deriving Inhabited

namespace Tree

/-- The node that stands where the document has none. -/
def empty : Tree String := .scalar ⟨none, none⟩ "" true

/-- What was read and the tokens after it. -/
structure Read (α : Type) (tokens : List Token) where
  result : α
  rest : List Token
  fits : rest.length ≤ tokens.length

namespace Read

variable {α β : Type} {tokens : List Token}

/-- The same reading as a reading of more tokens. -/
def widen {more : List Token} (read : Read α tokens) (h : tokens.length ≤ more.length) :
    Read α more :=
  ⟨read.result, read.rest, Nat.le_trans read.fits h⟩

def map (f : α → β) (read : Read α tokens) : Read β tokens := ⟨f read.result, read.rest, read.fits⟩

end Read

/-- The tag that a handle and the text after it stand for. -/
def resolveTag (handles : List (String × TagText)) (handle : String) (rest : TagText) :
    Except Fault TagText :=
  if handle.isEmpty then .ok rest
  else
    match handles.find? (·.1 == handle) with
    | some (_, replacement) => .ok (replacement ++ rest)
    | none => .error (.undefinedTagHandle handle)

/-- An anchor and a tag in either order, each at most once. -/
def properties (handles : List (String × TagText)) (tokens : List Token) :
    Except Fault (Read (Properties String) tokens) :=
  match tokens with
  | .anchor name :: .tag handle body :: rest => do
    let tag ← resolveTag handles handle body
    return ⟨⟨some name, some tag⟩, rest, by simp only [List.length_cons]; omega⟩
  | .anchor name :: rest => return ⟨⟨some name, none⟩, rest, by simp⟩
  | .tag handle body :: .anchor name :: rest => do
    let tag ← resolveTag handles handle body
    return ⟨⟨some name, some tag⟩, rest, by simp only [List.length_cons]; omega⟩
  | .tag handle body :: rest => do
    let tag ← resolveTag handles handle body
    return ⟨⟨none, some tag⟩, rest, by simp⟩
  | rest => return ⟨⟨none, none⟩, rest, Nat.le_refl _⟩

def startsWith (kinds : Token → Bool) : List Token → Bool
  | token :: _ => kinds token
  | [] => false

/-- Tokens that end a key or a value of a block mapping without a node. -/
def endsBlockPart : Token → Bool
  | .key | .value | .blockEnd => true
  | _ => false

def endsBlockItem : Token → Bool
  | .blockEntry | .blockEnd => true
  | _ => false

def endsIndentlessItem : Token → Bool
  | .blockEntry | .key | .value | .blockEnd => true
  | _ => false

def endsFlowValue : Token → Bool
  | .flowEntry | .flowMappingEnd => true
  | _ => false

def endsFlowKey : Token → Bool
  | .value | .flowEntry | .flowMappingEnd => true
  | _ => false

def endsPairValue : Token → Bool
  | .flowEntry | .flowSequenceEnd => true
  | _ => false

def endsPairKey : Token → Bool
  | .value | .flowEntry | .flowSequenceEnd => true
  | _ => false

/-- A node of which only properties were written. -/
def bare (props : Properties String) (tokens : List Token) :
    Except Fault (Read (Tree String) tokens) :=
  if props.anchor.isSome || props.tag.isSome then
    .ok ⟨.scalar props "" true, tokens, Nat.le_refl _⟩
  else .error (.unexpectedToken "node content")

mutual

/-- One node. In block context block collections may start; where a mapping's value stands, a
    sequence may start without being indented. -/
def node (handles : List (String × TagText)) (inBlock indentless : Bool) (tokens : List Token) :
    Except Fault (Read (Tree String) tokens) :=
  match tokens with
  | .aliasName name :: rest => .ok ⟨.repeated name, rest, by simp⟩
  | tokens =>
    match properties handles tokens with
    | .error fault => .error fault
    | .ok ⟨props, body, fits⟩ => do
      let read ← content handles inBlock indentless props body
      return read.widen fits
termination_by 4 * tokens.length + 2
decreasing_by all_goals omega

/-- What follows the properties of a node. -/
def content (handles : List (String × TagText)) (inBlock indentless : Bool)
    (props : Properties String) (tokens : List Token) :
    Except Fault (Read (Tree String) tokens) :=
  match tokens with
  | .scalar text isPlain :: rest => .ok ⟨.scalar props text isPlain, rest, by simp⟩
  | .flowSequenceStart :: rest => do
    let read ← flowItems handles true rest
    return (read.map (.sequence props ·)).widen (by simp)
  | .flowMappingStart :: rest => do
    let read ← flowEntries handles true rest
    return (read.map (.mapping props ·)).widen (by simp)
  | .blockEntry :: rest =>
    if indentless then do
      let read ← indentlessItems handles (.blockEntry :: rest)
      return read.map (.sequence props ·)
    else bare props (.blockEntry :: rest)
  | .blockSequenceStart :: rest =>
    if inBlock then do
      let read ← blockItems handles rest
      return (read.map (.sequence props ·)).widen (by simp)
    else bare props (.blockSequenceStart :: rest)
  | .blockMappingStart :: rest =>
    if inBlock then do
      let read ← blockEntries handles rest
      return (read.map (.mapping props ·)).widen (by simp)
    else bare props (.blockMappingStart :: rest)
  | tokens => bare props tokens
termination_by 4 * tokens.length + 1
decreasing_by all_goals (simp only [List.length_cons]; omega)

/-- A node, or the empty one if a token stands here that ends the place of one. -/
def nodeOrEmpty (handles : List (String × TagText)) (inBlock indentless : Bool)
    (ends : Token → Bool) (tokens : List Token) : Except Fault (Read (Tree String) tokens) :=
  if startsWith ends tokens then .ok ⟨empty, tokens, Nat.le_refl _⟩
  else node handles inBlock indentless tokens
termination_by 4 * tokens.length + 3
decreasing_by all_goals omega

/-- The items of a block sequence, up to its end. -/
def blockItems (handles : List (String × TagText)) (tokens : List Token) :
    Except Fault (Read (List (Tree String)) tokens) :=
  match tokens with
  | .blockEntry :: rest =>
    match nodeOrEmpty handles true false endsBlockItem rest with
    | .error fault => .error fault
    | .ok ⟨item, after, fits⟩ =>
      match blockItems handles after with
      | .error fault => .error fault
      | .ok read =>
        .ok ((read.map (item :: ·)).widen (by simp only [List.length_cons]; omega))
  | .blockEnd :: rest => .ok ⟨[], rest, by simp⟩
  | _ => .error (.unexpectedToken "'-' indicator")
termination_by 4 * tokens.length
decreasing_by all_goals (try simp only [List.length_cons] at *) <;> omega

/-- The items of a sequence that stands at the column of the mapping around it. -/
def indentlessItems (handles : List (String × TagText)) (tokens : List Token) :
    Except Fault (Read (List (Tree String)) tokens) :=
  match tokens with
  | .blockEntry :: rest =>
    match nodeOrEmpty handles true false endsIndentlessItem rest with
    | .error fault => .error fault
    | .ok ⟨item, after, fits⟩ =>
      match indentlessItems handles after with
      | .error fault => .error fault
      | .ok read =>
        .ok ((read.map (item :: ·)).widen (by simp only [List.length_cons]; omega))
  | rest => .ok ⟨[], rest, Nat.le_refl _⟩
termination_by 4 * tokens.length
decreasing_by all_goals (try simp only [List.length_cons] at *) <;> omega

/-- The entries of a block mapping, up to its end. A key without a value, and a value without a key,
    has the empty node for the other. -/
def blockEntries (handles : List (String × TagText)) (tokens : List Token) :
    Except Fault (Read (List (Tree String × Tree String)) tokens) :=
  match tokens with
  | .key :: rest =>
    match nodeOrEmpty handles true true endsBlockPart rest with
    | .error fault => .error fault
    | .ok ⟨key, afterKey, keyFits⟩ =>
      match afterKey, keyFits with
      | .value :: rest', keyFits =>
        match nodeOrEmpty handles true true endsBlockPart rest' with
        | .error fault => .error fault
        | .ok ⟨value, after, fits⟩ =>
          match blockEntries handles after with
          | .error fault => .error fault
          | .ok read =>
            .ok ((read.map ((key, value) :: ·)).widen
              (by simp only [List.length_cons] at *; omega))
      | afterKey, keyFits =>
        match blockEntries handles afterKey with
        | .error fault => .error fault
        | .ok read =>
          .ok ((read.map ((key, empty) :: ·)).widen (by simp only [List.length_cons] at *; omega))
  | .blockEnd :: rest => .ok ⟨[], rest, by simp⟩
  | _ => .error (.unexpectedToken "key")
termination_by 4 * tokens.length
decreasing_by all_goals (try simp only [List.length_cons] at *) <;> omega

/-- The items of a sequence in brackets, up to the closing one. A key makes a mapping of one
    entry. -/
def flowItems (handles : List (String × TagText)) (isFirst : Bool) (tokens : List Token) :
    Except Fault (Read (List (Tree String)) tokens) :=
  match tokens with
  | .flowSequenceEnd :: rest => .ok ⟨[], rest, by simp⟩
  | .flowEntry :: rest =>
    if isFirst then .error (.unexpectedToken "node content")
    else
      match rest with
      | .flowSequenceEnd :: rest => .ok ⟨[], rest, by simp only [List.length_cons]; omega⟩
      | rest =>
        match flowItem handles rest with
        | .error fault => .error fault
        | .ok ⟨item, after, fits⟩ =>
          match flowItems handles false after with
          | .error fault => .error fault
          | .ok read =>
            .ok ((read.map (item :: ·)).widen (by simp only [List.length_cons]; omega))
  | tokens =>
    if isFirst then
      match flowItem handles tokens with
      | .error fault => .error fault
      | .ok ⟨item, after, fits⟩ =>
        if _shorter : after.length < tokens.length then
          match flowItems handles false after with
          | .error fault => .error fault
          | .ok read => .ok ((read.map (item :: ·)).widen fits)
        else .error (.unexpectedToken "',' or ']'")
    else .error (.unexpectedToken "',' or ']'")
termination_by 4 * tokens.length + 4
decreasing_by all_goals (try simp only [List.length_cons] at *) <;> omega

def flowItem (handles : List (String × TagText)) (tokens : List Token) :
    Except Fault (Read (Tree String) tokens) :=
  match tokens with
  | .key :: rest =>
    match pairKey handles rest with
    | .error fault => .error fault
    | .ok ⟨key, afterKey, keyFits⟩ =>
      match afterKey, keyFits with
      | .value :: rest', keyFits =>
        match nodeOrEmpty handles false false endsPairValue rest' with
        | .error fault => .error fault
        | .ok ⟨value, after, fits⟩ =>
          .ok ⟨.mapping ⟨none, none⟩ [(key, value)], after,
            by simp only [List.length_cons] at *; omega⟩
      | afterKey, keyFits =>
        .ok ⟨.mapping ⟨none, none⟩ [(key, empty)], afterKey,
          by simp only [List.length_cons] at *; omega⟩
  | tokens => node handles false false tokens
termination_by 4 * tokens.length + 3
decreasing_by all_goals (try simp only [List.length_cons] at *) <;> omega

/-- The key of a mapping of one entry. Where there is none, the token that stands here is passed
    over. -/
def pairKey (handles : List (String × TagText)) (tokens : List Token) :
    Except Fault (Read (Tree String) tokens) :=
  if startsWith endsPairKey tokens then .ok ⟨empty, tokens.drop 1, by simp⟩
  else node handles false false tokens
termination_by 4 * tokens.length + 3
decreasing_by all_goals omega

/-- The entries of a mapping in braces, up to the closing one. -/
def flowEntries (handles : List (String × TagText)) (isFirst : Bool) (tokens : List Token) :
    Except Fault (Read (List (Tree String × Tree String)) tokens) :=
  match tokens with
  | .flowMappingEnd :: rest => .ok ⟨[], rest, by simp⟩
  | .flowEntry :: rest =>
    if isFirst then .error (.unexpectedToken "node content")
    else
      match rest with
      | .flowMappingEnd :: rest => .ok ⟨[], rest, by simp only [List.length_cons]; omega⟩
      | rest =>
        match flowPair handles rest with
        | .error fault => .error fault
        | .ok ⟨entry, after, fits⟩ =>
          match flowEntries handles false after with
          | .error fault => .error fault
          | .ok read =>
            .ok ((read.map (entry :: ·)).widen (by simp only [List.length_cons]; omega))
  | tokens =>
    if isFirst then
      match flowPair handles tokens with
      | .error fault => .error fault
      | .ok ⟨entry, after, fits⟩ =>
        if _shorter : after.length < tokens.length then
          match flowEntries handles false after with
          | .error fault => .error fault
          | .ok read => .ok ((read.map (entry :: ·)).widen fits)
        else .error (.unexpectedToken "',' or '\x7d'")
    else .error (.unexpectedToken "',' or '\x7d'")
termination_by 4 * tokens.length + 4
decreasing_by all_goals (try simp only [List.length_cons] at *) <;> omega

/-- One entry of a mapping in braces. A node without the mark of a key has no value. -/
def flowPair (handles : List (String × TagText)) (tokens : List Token) :
    Except Fault (Read (Tree String × Tree String) tokens) :=
  match tokens with
  | .key :: rest =>
    match nodeOrEmpty handles false false endsFlowKey rest with
    | .error fault => .error fault
    | .ok ⟨key, afterKey, keyFits⟩ =>
      match afterKey, keyFits with
      | .value :: rest', keyFits =>
        match nodeOrEmpty handles false false endsFlowValue rest' with
        | .error fault => .error fault
        | .ok ⟨value, after, fits⟩ =>
          .ok ⟨(key, value), after, by simp only [List.length_cons] at *; omega⟩
      | afterKey, keyFits =>
        .ok ⟨(key, empty), afterKey, by simp only [List.length_cons] at *; omega⟩
  | tokens =>
    match node handles false false tokens with
    | .error fault => .error fault
    | .ok read => .ok (read.map fun key => (key, empty))
termination_by 4 * tokens.length + 3
decreasing_by all_goals (try simp only [List.length_cons] at *) <;> omega

end

/-- The handles that a document's directives define, and those defined for all documents. -/
def directives (handles : List (String × TagText)) (hasVersion : Bool) :
    List Token → Except Fault (List (String × TagText) × List Token)
  | .versionDirective major minor :: rest =>
    if hasVersion || major ≠ 1 || !(minor == 1 || minor == 2) then .error .badDirective
    else directives handles true rest
  | .tagDirective handle replacement :: rest =>
    if handles.any (·.1 == handle) then .error .badDirective
    else directives (handles ++ [(handle, replacement)]) hasVersion rest
  | rest =>
    .ok (handles ++ [("!", [some '!']), ("!!", "tag:yaml.org,2002:".toList.map some)], rest)

def isDirective : Token → Bool
  | .versionDirective _ _ | .tagDirective _ _ => true
  | _ => false

def endsDocument : Token → Bool
  | .versionDirective _ _ | .tagDirective _ _ | .documentStart | .documentEnd | .streamEnd => true
  | _ => false

/-- Nothing but marks of ends may follow the document. -/
def onlyEnds (tokens : List Token) : Bool :=
  tokens.all fun
    | .documentEnd | .streamEnd => true
    | _ => false

/-- The one document of a stream; none if the stream is empty. -/
def ofTokens (tokens : List Token) : Except Fault (Option (Tree String)) :=
  match tokens with
  | [] | .streamEnd :: _ => .ok none
  | _ => do
    let (handles, afterDirectives) ← directives [] false tokens
    let isExplicit := startsWith isDirective tokens || tokens.head? == some .documentStart
    let content ←
      if isExplicit then
        match afterDirectives with
        | .documentStart :: rest => pure rest
        | _ => throw (Fault.unexpectedToken "<document start>")
      else pure afterDirectives
    let ⟨tree, rest, _⟩ ←
      if isExplicit then nodeOrEmpty handles true false endsDocument content
      else node handles true false content
    if onlyEnds rest then return some tree
    else throw .severalDocuments

end Tree

end DeviceConfig.Yaml
