import LcdCompositor.Yaml.Layout
import LcdCompositor.Yaml.Node

/-!
# Nodes from tokens

The grammar of documents. In blocks every item and every key has its mark, and what
is missing between two marks is a void scalar. Inside brackets items are separated
by commas, and an item of a sequence can be a single pair.
-/

namespace LcdCompositor.Yaml

/-- What is left of a document, and the anchors that have been met. -/
structure Progress where
  tokens : List Token
  /-- What the handles of tags stand for. -/
  handles : List (String × Tag)
  /-- The numbers of the anchors by name. -/
  numbers : List (String × Nat)
  /-- The order of the anchors by number, the latest first. -/
  orders : List (Nat × Nat)
  /-- The marked nodes by the order of their anchors. -/
  marked : List (Nat × Node)

/-- A part of the grammar. -/
abbrev Reader := StateT Progress (Except Defect)

namespace Reader

/-- The next token, which stays. -/
def peek : Reader (Option Token) := do pure (← get).tokens.head?

/-- Moves past a token. -/
def skip : Reader Unit := modify fun p => { p with tokens := p.tokens.drop 1 }

/-- Whether one of some tokens comes next. -/
def nextIn (ts : List Token) : Reader Bool := do
  match ← peek with
  | some t => pure (ts.contains t)
  | none => pure false

/-- Moves past a token, which has to come next. -/
def expect (t : Token) : Reader Unit := do
  if ← nextIn [t] then skip else throw .misplacedToken

/-- Moves past a token if it comes next, and says whether it did. -/
def skipIf (t : Token) : Reader Bool := do
  if ← nextIn [t] then
    skip
    pure true
  else pure false

/-- The number of the anchor that an alias names. -/
def number (name : String) : Reader Nat := do
  match (← get).numbers.lookup name with
  | some n => pure n
  | none => throw .unknownAnchor

/-- Notes an anchor and gives its order. Its number is how many names are known; of
two anchors with one number the later one counts. -/
def noteAnchor (name : String) : Reader Nat := do
  let p ← get
  let number := (p.numbers.map (·.1)).eraseDups.length
  let order := p.orders.length
  set { p with
    numbers := (name, number) :: p.numbers, orders := (number, order) :: p.orders }
  pure order

/-- Gives an anchor its node. -/
def mark (anchor : Option Nat) (node : Node) : Reader Unit :=
  match anchor with
  | some order => modify fun p => { p with marked := (order, node) :: p.marked }
  | none => pure ()

/-- A tag in full. -/
def fullTag (handle : String) (suffix : Tag) : Reader Tag := do
  if handle.isEmpty then return suffix
  match (← get).handles.lookup handle with
  | some expansion => pure (expansion ++ suffix)
  | none => throw .unknownTag

/-- What can stand in front of the content of a node. -/
structure Properties where
  anchor : Option String
  tag : Option Tag

/-- An anchor, if one comes next. -/
def anchor : Reader (Option String) := do
  match ← peek with
  | some (.anchor name) => do
    skip
    pure (some name)
  | _ => pure none

/-- A tag, if one comes next. -/
def tag : Reader (Option Tag) := do
  match ← peek with
  | some (.tag handle suffix) => do
    skip
    some <$> fullTag handle suffix
  | _ => pure none

/-- An anchor and a tag, in either order, as far as they are there. -/
def properties : Reader Properties := do
  match ← anchor with
  | some name => pure ⟨some name, ← tag⟩
  | none => do
    match ← tag with
    | some tag => pure ⟨← anchor, some tag⟩
    | none => pure ⟨none, none⟩

mutual

/-- A node. Only in a block can block content follow, and only behind a key or a colon
can items stand at the column of the surroundings. -/
def node (fuel : Nat) (block indentless : Bool) : Reader Node := do
  match fuel with
  | 0 => throw .misplacedToken
  | fuel + 1 =>
    if let some (.alias name) ← peek then
      skip
      return .alias (← number name)
    let properties ← properties
    let order ← properties.anchor.mapM noteAnchor
    let content ← content fuel block indentless properties
    mark order content
    pure content

/-- The content of a node. Behind properties it can be missing. -/
def content (fuel : Nat) (block indentless : Bool) (properties : Properties) : Reader Node := do
  match fuel with
  | 0 => throw .misplacedToken
  | fuel + 1 =>
    match ← peek with
    | some (.scalar text style) =>
      skip
      pure (.scalar ⟨text, style, properties.tag⟩)
    | some .flowSequence =>
      skip
      .sequence <$> flowItems fuel true
    | some .flowMapping =>
      skip
      .mapping <$> flowPairs fuel true
    | some .entry =>
      if indentless then .sequence <$> indentlessItems fuel else absent properties
    | some .blockSequence =>
      if block then
        skip
        .sequence <$> blockItems fuel
      else absent properties
    | some .blockMapping =>
      if block then
        skip
        .mapping <$> blockPairs fuel
      else absent properties
    | _ => absent properties

/-- The content where none is written. -/
def absent (properties : Properties) : Reader Node :=
  if properties.anchor.isSome || properties.tag.isSome then
    pure (.scalar (Scalar.void properties.tag))
  else throw .misplacedToken

/-- A node, or a void scalar in front of certain tokens. -/
def optional (fuel : Nat) (block indentless : Bool) (ends : List Token) : Reader Node := do
  match fuel with
  | 0 => throw .misplacedToken
  | fuel + 1 => if ← nextIn ends then pure Node.void else node fuel block indentless

/-- The items of a block sequence. -/
def blockItems (fuel : Nat) : Reader (List Node) := do
  match fuel with
  | 0 => throw .misplacedToken
  | fuel + 1 =>
    if ← skipIf .blockEnd then return []
    expect .entry
    let item ← optional fuel true false [.entry, .blockEnd]
    pure (item :: (← blockItems fuel))

/-- The items of a sequence at the column of its key. -/
def indentlessItems (fuel : Nat) : Reader (List Node) := do
  match fuel with
  | 0 => throw .misplacedToken
  | fuel + 1 =>
    if !(← skipIf .entry) then return []
    let item ← optional fuel true false [.entry, .key, .value, .blockEnd]
    pure (item :: (← indentlessItems fuel))

/-- The pairs of a block mapping. -/
def blockPairs (fuel : Nat) : Reader (List (Node × Node)) := do
  match fuel with
  | 0 => throw .misplacedToken
  | fuel + 1 =>
    if ← skipIf .blockEnd then return []
    expect .key
    let key ← optional fuel true true [.key, .value, .blockEnd]
    let value ←
      if ← skipIf .value then optional fuel true true [.key, .value, .blockEnd]
      else pure Node.void
    pure ((key, value) :: (← blockPairs fuel))

/-- The items of a flow sequence, with commas between them. -/
def flowItems (fuel : Nat) (first : Bool) : Reader (List Node) := do
  match fuel with
  | 0 => throw .misplacedToken
  | fuel + 1 =>
    if ← skipIf .flowSequenceEnd then return []
    if !first then expect .comma
    if ← skipIf .flowSequenceEnd then return []
    let item ← if ← skipIf .key then lonePair fuel else node fuel false false
    pure (item :: (← flowItems fuel false))

/-- A mapping of one pair inside a flow sequence. Where its key is missing, the token
in the place of the key is lost. -/
def lonePair (fuel : Nat) : Reader Node := do
  match fuel with
  | 0 => throw .misplacedToken
  | fuel + 1 =>
    let key ←
      if ← nextIn [.value, .comma, .flowSequenceEnd] then
        skip
        pure Node.void
      else node fuel false false
    let value ←
      if ← skipIf .value then optional fuel false false [.comma, .flowSequenceEnd]
      else pure Node.void
    pure (.mapping [(key, value)])

/-- The pairs of a flow mapping, with commas between them. Without a colon, the value
is missing. -/
def flowPairs (fuel : Nat) (first : Bool) : Reader (List (Node × Node)) := do
  match fuel with
  | 0 => throw .misplacedToken
  | fuel + 1 =>
    if ← skipIf .flowMappingEnd then return []
    if !first then expect .comma
    if ← skipIf .flowMappingEnd then return []
    let pair ←
      if ← skipIf .key then do
        let key ← optional fuel false false [.value, .comma, .flowMappingEnd]
        let value ←
          if ← skipIf .value then optional fuel false false [.comma, .flowMappingEnd]
          else pure Node.void
        pure (key, value)
      else do pure (← node fuel false false, Node.void)
    pure (pair :: (← flowPairs fuel false))

end

/-- The directives in front of a document: at most one version, 1.1 or 1.2, and every
handle at most once. Says whether there were any. -/
def directives (rounds : Nat) (versioned : Bool) (any : Bool) : Reader Bool := do
  match rounds with
  | 0 => pure any
  | rounds + 1 =>
    match ← peek with
    | some (.version major minor) =>
      if versioned || major != 1 || !(minor = 1 || minor = 2) then throw .malformedToken
      skip
      directives rounds true true
    | some (.tagHandle handle expansion) =>
      let p ← get
      if (p.handles.lookup handle).isSome then throw .malformedToken
      set { p with handles := p.handles ++ [(handle, expansion)] }
      skip
      directives rounds versioned true
    | _ => pure any

/-- The handles that need no directive, unless one changes them. -/
def standardHandles : List (String × Tag) :=
  [("!", Tag.ofString "!"), ("!!", Tag.ofString "tag:yaml.org,2002:")]

/-- The root of the only document. Behind directives, or to be empty, it needs a row of
dashes in front. A row of dots may follow it. -/
def root (fuel : Nat) : Reader Node := do
  let directed ← directives fuel false false
  modify fun p => { p with handles := p.handles ++ standardHandles }
  let explicit ← skipIf .documentStart
  if directed && !explicit then throw .misplacedToken
  let void ← do
    match ← peek with
    | none => pure true
    | some (.version _ _) => pure true
    | some (.tagHandle _ _) => pure true
    | some t => pure (t = .documentStart || t = .documentEnd)
  let node ← if explicit && void then pure Node.void else node fuel true false
  modify fun p => { p with tokens := p.tokens.dropWhile (· = .documentEnd) }
  if (← peek).isSome then throw .severalDocuments
  pure node

end Reader

/-- The document that a text describes. A text without tokens describes a void one. -/
def Document.ofString (text : String) : Except Defect Document := do
  let ts ← tokens text
  if ts.isEmpty then return ⟨Node.void, fun _ => none⟩
  let (node, p) ← Reader.root (4 * ts.length + 4) |>.run ⟨ts, [], [], [], []⟩
  pure ⟨node, fun number => (p.orders.lookup number).bind (List.lookup · p.marked)⟩

end LcdCompositor.Yaml
