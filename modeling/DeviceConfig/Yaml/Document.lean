import DeviceConfig.Yaml.Resolve
import DeviceConfig.Yaml.Token.Stream
import DeviceConfig.Yaml.Tree

/-!
From the tree of a document to its meaning: aliases become the nodes that they repeat, and scalars
become nulls, booleans, numbers and texts.
-/

namespace DeviceConfig.Yaml

/-- The anchors of a document in order, each with the number that stands for it. The number is the
    count of different names before it. -/
abbrev Anchors := List (String × Nat)

namespace Anchors

def number? (name : String) (anchors : Anchors) : Option Nat := Entries.get? name anchors

def add (name : String) (anchors : Anchors) : Anchors := Entries.set name anchors.length anchors

end Anchors

namespace Tree

/-- Numbers the anchor of a node. -/
def numberProperties (props : Properties String) (anchors : Anchors) : Properties Nat × Anchors :=
  match props.anchor with
  | some name => (⟨some anchors.length, props.tag⟩, anchors.add name)
  | none => (⟨none, props.tag⟩, anchors)

mutual

/-- Puts numbers in the place of names. An alias repeats the last node before it with the name. -/
def number (anchors : Anchors) : Tree String → Except Fault (Tree Nat × Anchors)
  | repeated name =>
    match anchors.number? name with
    | some target => .ok (.repeated target, anchors)
    | none => .error (.undefinedAnchor name)
  | scalar props text isPlain =>
    let (props, anchors) := numberProperties props anchors
    .ok (.scalar props text isPlain, anchors)
  | sequence props items => do
    let (props, anchors) := numberProperties props anchors
    let (items, anchors) ← numberItems anchors items
    return (.sequence props items, anchors)
  | mapping props entries => do
    let (props, anchors) := numberProperties props anchors
    let (entries, anchors) ← numberEntries anchors entries
    return (.mapping props entries, anchors)

def numberItems (anchors : Anchors) :
    List (Tree String) → Except Fault (List (Tree Nat) × Anchors)
  | [] => .ok ([], anchors)
  | item :: rest => do
    let (item, anchors) ← number anchors item
    let (rest, anchors) ← numberItems anchors rest
    return (item :: rest, anchors)

def numberEntries (anchors : Anchors) :
    List (Tree String × Tree String) → Except Fault (List (Tree Nat × Tree Nat) × Anchors)
  | [] => .ok ([], anchors)
  | (key, value) :: rest => do
    let (key, anchors) ← number anchors key
    let (value, anchors) ← number anchors value
    let (rest, anchors) ← numberEntries anchors rest
    return ((key, value) :: rest, anchors)

end

def ownAnchor (props : Properties Nat) (node : Tree Nat) : List (Nat × Tree Nat) :=
  match props.anchor with
  | some n => [(n, node)]
  | none => []

mutual

/-- The anchored nodes in the order in which they start. -/
def anchored : Tree Nat → List (Nat × Tree Nat)
  | repeated _ => []
  | scalar props text isPlain => ownAnchor props (.scalar props text isPlain)
  | sequence props items => ownAnchor props (.sequence props items) ++ anchoredItems items
  | mapping props entries => ownAnchor props (.mapping props entries) ++ anchoredEntries entries

def anchoredItems : List (Tree Nat) → List (Nat × Tree Nat)
  | [] => []
  | item :: rest => anchored item ++ anchoredItems rest

def anchoredEntries : List (Tree Nat × Tree Nat) → List (Nat × Tree Nat)
  | [] => []
  | (key, value) :: rest => anchored key ++ anchored value ++ anchoredEntries rest

end

mutual

/-- How many scalars, aliases, starts and ends of collections the document has. -/
def eventCount {α : Type} : Tree α → Nat
  | repeated _ | scalar _ _ _ => 1
  | sequence _ items => 2 + itemsEventCount items
  | mapping _ entries => 2 + entriesEventCount entries

def itemsEventCount {α : Type} : List (Tree α) → Nat
  | [] => 0
  | item :: rest => eventCount item + itemsEventCount rest

def entriesEventCount {α : Type} : List (Tree α × Tree α) → Nat
  | [] => 0
  | (key, value) :: rest => eventCount key + eventCount value + entriesEventCount rest

end

end Tree

/-- The meaning of a plain scalar: null, a boolean, a number, or else its text. A whole number that
    needs more than 64 bits but at most 128 is refused. -/
def ofPlain (text : String) : Except Fault Yaml :=
  if text.isEmpty || isNullText text then .ok .null
  else
    match boolOfText? text with
    | some b => .ok (.bool b)
    | none =>
      let other : Yaml :=
        if isPaddedNumber text.toList then .string text
        else
          match floatOfText? text.toList with
          | some x => .float x
          | none => .string text
      match wholeNumber? text.toList with
      | some n =>
        if -Int.pow 2 63 ≤ n && n < Int.pow 2 64 then .ok (.int n)
        else if -Int.pow 2 127 ≤ n && n < Int.pow 2 128 then .error (.numberTooLarge text)
        else .ok other
      | none => .ok other

/-- The meaning of a whole number that is tagged as one. -/
def ofTaggedInt (text : String) : Except Fault Yaml :=
  match wholeNumber? text.toList with
  | some n =>
    if -Int.pow 2 63 ≤ n && n < Int.pow 2 64 then .ok (.int n)
    else if -Int.pow 2 127 ≤ n && n < Int.pow 2 128 then .error (.numberTooLarge text)
    else .error (.wrongScalar text "an integer")
  | none => .error (.wrongScalar text "an integer")

/-- The text of a tag. One that holds bytes that are no character has none. -/
def tagString? (tag : TagText) : Option String := (tag.mapM id).map String.ofList

/-- A tag of the document's own starts with an exclamation mark. -/
def isOwnTag (tag : TagText) : Bool := tag.head? == some (some '!')

def ownTag? (tag : TagText) : Option String :=
  match tag with
  | [some '!'] | [some '!', some '!'] => some "!!"
  | some '!' :: some '!' :: rest => (tagString? rest).map ("!" ++ ·)
  | some '!' :: rest => (tagString? rest).map ("!" ++ ·)
  | _ => none

/-- The meaning of a scalar by its tag and its way of writing. A tag of the document's own that has
    no text is passed over. -/
def ofScalar (tag : Option TagText) (text : String) (isPlain : Bool) : Except Fault Yaml :=
  let untagged := if isPlain then ofPlain text else .ok (.string text)
  match tag with
  | none => untagged
  | some tag =>
    match ownTag? tag with
    | some own => untagged.map (.tagged own)
    | none =>
      if isOwnTag tag then untagged
      else
        match tagString? tag with
        | some "tag:yaml.org,2002:bool" =>
          match boolOfText? text with
          | some b => .ok (.bool b)
          | none => .error (.wrongScalar text "a boolean")
        | some "tag:yaml.org,2002:int" => ofTaggedInt text
        | some "tag:yaml.org,2002:float" =>
          match floatOfText? text.toList with
          | some x => .ok (.float x)
          | none => .error (.wrongScalar text "a float")
        | some "tag:yaml.org,2002:null" =>
          if isNullText text then .ok .null else .error (.wrongScalar text "null")
        | _ => .ok (.string text)

def withTag (tag : Option TagText) (node : Yaml) : Yaml :=
  match tag.bind ownTag? with
  | some own => .tagged own node
  | none => node

/-- What the reading of a document's nodes needs: the anchored nodes, and how many more aliases may
    be followed. -/
abbrev Reading := StateT Nat (Except Fault)

/-- The node that an alias repeats. -/
def follow (targets : List (Nat × Tree Nat)) : Tree Nat → Reading (Tree Nat)
  | .repeated target => do
    match ← get with
    | 0 => throw .tooManyAliases
    | left + 1 =>
      set left
      match targets.reverse.find? (·.1 == target) with
      | some (_, node) => return node
      | none => throw .tooManyAliases
  | node => return node

mutual

/-- The meaning of a node in which at most `depth` collections stand inside one another. -/
def ofTree (targets : List (Nat × Tree Nat)) (depth : Nat) (tree : Tree Nat) : Reading Yaml := do
  match ← follow targets tree, depth with
  | .repeated _, _ => throw .tooManyAliases
  | .scalar props text isPlain, _ => ofScalar props.tag text isPlain
  | .sequence _ _, 0 | .mapping _ _, 0 => throw .tooDeep
  | .sequence props items, depth + 1 => do
    let items ← ofItems targets depth items
    return withTag props.tag (.sequence items)
  | .mapping props entries, depth + 1 => do
    let entries ← ofEntries targets depth [] entries
    return withTag props.tag (.mapping entries)
termination_by (depth, 0)

def ofItems (targets : List (Nat × Tree Nat)) (depth : Nat) :
    List (Tree Nat) → Reading (List Yaml)
  | [] => return []
  | item :: rest => do
    let item ← ofTree targets depth item
    let rest ← ofItems targets depth rest
    return item :: rest
termination_by items => (depth, items.length + 1)

/-- The entries of a mapping after those already read, in which no key stands twice. -/
def ofEntries (targets : List (Nat × Tree Nat)) (depth : Nat) (before : List (Yaml × Yaml)) :
    List (Tree Nat × Tree Nat) → Reading (List (Yaml × Yaml))
  | [] => return before.reverse
  | (key, value) :: rest => do
    let key ← ofTree targets depth key
    if before.any fun (k, _) => k.equal key then throw .duplicateKey
    let value ← ofTree targets depth value
    ofEntries targets depth ((key, value) :: before) rest
termination_by entries => (depth, entries.length + 1)

end

/-- How many collections may stand inside one another. -/
def depthLimit : Nat := 128

/-- Reads the one document of a text. An empty text is null. -/
def ofText (text : String) : Except Fault Yaml := do
  let tokens ← Token.ofText text.toList
  match ← Tree.ofTokens tokens with
  | none => return .null
  | some tree =>
    let (numbered, _) ← tree.number []
    let read ← (ofTree numbered.anchored depthLimit numbered).run (100 * numbered.eventCount)
    return read.1

end DeviceConfig.Yaml
