import LcdCompositor.Yaml.Tag
import LcdCompositor.Yaml.Scalar.Plain
import LcdCompositor.Yaml.Scalar.Quoted
import LcdCompositor.Yaml.Scalar.Block

/-!
# Tokens from layout

Outside brackets structure is told from indentation: a deeper column opens a block
and a shallower one closes it. A key is recognised late, by the colon behind it, so
whatever can turn out to be a key leaves a place in front of itself, which is filled
if the colon comes. A key has to stand on one line, and its colon within 1024
octets.
-/

namespace LcdCompositor.Yaml

/-- A token, or the place in front of something that can turn out to be a key. -/
inductive Piece
  | token (t : Token)
  | place (number : Nat)

/-- Something that can still turn out to be a key. -/
structure Candidate where
  number : Nat
  line : Nat
  column : Nat
  /-- How many octets of its line are in front of it. -/
  offset : Nat
  /-- Whether nothing but a key can stand here. -/
  required : Bool

/-- Reading with the layout so far. -/
structure Layout where
  /-- The last piece first. -/
  pieces : List Piece
  /-- The columns of the open blocks, the innermost first. -/
  columns : List Nat
  /-- One candidate for every bracket that is open, the innermost first, and one for
  the outside. -/
  candidates : List (Option Candidate)
  /-- Whether a key may begin here. -/
  keyAllowed : Bool
  /-- How many places there are. -/
  places : Nat
  /-- The places of keys, and whether the key opens a mapping. -/
  keys : List (Nat × Bool)

namespace Layout

/-- Before the first token. -/
def start : Layout := ⟨[], [], [none], true, 0, []⟩

/-- Whether the reading is inside brackets. -/
def inFlow (s : Layout) : Bool := s.candidates.length > 1

/-- The least column that is deeper than the innermost block. -/
def margin (s : Layout) : Nat :=
  match s.columns with
  | [] => 0
  | c :: _ => c + 1

/-- Adds a token. -/
def emit (s : Layout) (t : Token) : Layout := { s with pieces := .token t :: s.pieces }

/-- Allows or forbids a key. -/
def allowKey (s : Layout) (allowed : Bool) : Layout := { s with keyAllowed := allowed }

/-- Closes the blocks that lie deeper than a column, given one more than it. -/
def closeBlocks (s : Layout) (margin : Nat) : Layout :=
  if s.inFlow then s
  else
    let deeper := s.columns.takeWhile (margin ≤ ·)
    { s with
      pieces := deeper.map (fun _ => Piece.token .blockEnd) ++ s.pieces
      columns := s.columns.dropWhile (margin ≤ ·) }

/-- Whether something at a column opens a block. -/
def opensBlock (s : Layout) (column : Nat) : Bool := !s.inFlow && s.margin ≤ column

/-- Opens a block at a column if it is deeper than the innermost one. -/
def openBlock (s : Layout) (column : Nat) (t : Token) : Layout :=
  if s.opensBlock column then { s with columns := column :: s.columns }.emit t else s

/-- Gives up a candidate. That is a defect if nothing but a key could stand there. -/
def giveUp : Option Candidate → Except Defect (Option Candidate)
  | some c => if c.required then .error .misplacedToken else .ok none
  | none => .ok none

/-- Gives up the innermost candidate. -/
def dropCandidate (s : Layout) : Except Defect Layout := do
  match s.candidates with
  | [] => pure s
  | c :: rest => pure { s with candidates := (← giveUp c) :: rest }

/-- Gives up the candidates whose line is over or whose colon would come too late. -/
def dropStale (s : Layout) (p : Placed) : Except Defect Layout := do
  let candidates ← s.candidates.mapM fun c =>
    match c with
    | some k => if k.line < p.line || k.offset + 1024 < p.offset then giveUp c else pure c
    | none => pure none
  pure { s with candidates }

/-- Notes that what begins here can turn out to be a key, if a key is allowed. -/
def noteCandidate (s : Layout) (p : Placed) : Except Defect Layout := do
  if !s.keyAllowed then return s
  let s ← s.dropCandidate
  let required := !s.inFlow && s.margin = p.column + 1
  pure { s with
    pieces := .place s.places :: s.pieces
    candidates := some ⟨s.places, p.line, p.column, p.offset, required⟩ :: s.candidates.drop 1
    places := s.places + 1 }

/-- Turns the innermost candidate into a key. -/
def confirmKey (s : Layout) (c : Candidate) : Layout :=
  let opens := s.opensBlock c.column
  { s with
    keys := (c.number, opens) :: s.keys
    columns := if opens then c.column :: s.columns else s.columns
    candidates := none :: s.candidates.drop 1
    keyAllowed := false }

/-- Moves on to the next token, over blanks, comments and line ends. A tab does not
count as indentation. -/
def skipGap (flow : Bool) : (allowed comment : Bool) → Input → Bool × Input
  | allowed, _, [] => (allowed, [])
  | allowed, comment, p :: rest =>
    if isBreak p.char then skipGap flow (allowed || !flow) false rest
    else if comment || (p.char = byteOrderMark && p.column = 0) || p.char = ' ' ||
        (p.char = '\t' && (flow || !allowed)) then skipGap flow allowed comment rest
    else if p.char = '#' then skipGap flow allowed true rest
    else (allowed, p :: rest)

/-- One step of the reading. -/
abbrev Step := Except Defect (Layout × Input)

/-- A mark of structure of the whole document: no block stays open. -/
def closeAll (s : Layout) : Except Defect Layout := do
  pure ((← (s.closeBlocks 0).dropCandidate).allowKey false)

/-- An opening bracket, which can begin a key. -/
def openFlow (s : Layout) (p : Placed) (rest : Input) (t : Token) : Step := do
  let s ← s.noteCandidate p
  pure ({ s with candidates := none :: s.candidates }.allowKey true |>.emit t, rest)

/-- A closing bracket. One too many is left for the grammar to refuse. -/
def closeFlow (s : Layout) (rest : Input) (t : Token) : Step := do
  let s ← s.dropCandidate
  let candidates := if s.inFlow then s.candidates.drop 1 else s.candidates
  pure ({ s with candidates }.allowKey false |>.emit t, rest)

/-- A comma. -/
def comma (s : Layout) (rest : Input) : Step := do
  pure ((← s.dropCandidate).allowKey true |>.emit .comma, rest)

/-- The dash in front of an item. -/
def dash (s : Layout) (p : Placed) (rest : Input) : Step := do
  if !s.inFlow && !s.keyAllowed then throw .misplacedToken
  let s ← (s.openBlock p.column .blockSequence).dropCandidate
  pure ((s.allowKey true).emit .entry, rest)

/-- The question mark in front of a key. -/
def question (s : Layout) (p : Placed) (rest : Input) : Step := do
  if !s.inFlow && !s.keyAllowed then throw .misplacedToken
  let s ← (s.openBlock p.column .blockMapping).dropCandidate
  pure ((s.allowKey !s.inFlow).emit .key, rest)

/-- The colon in front of a value. Without a candidate the key is empty. -/
def colon (s : Layout) (p : Placed) (rest : Input) : Step := do
  match s.candidates.head?.join with
  | some c => pure ((s.confirmKey c).emit .value, rest)
  | none =>
    if !s.inFlow && !s.keyAllowed then throw .misplacedToken
    let s := s.openBlock p.column .blockMapping
    pure ((s.allowKey !s.inFlow).emit .value, rest)

/-- A property or a scalar on one line, which can begin a key. -/
def single (s : Layout) (p : Placed) (read : Except Defect (Token × Input)) : Step := do
  let s := (← s.noteCandidate p).allowKey false
  let (t, rest) ← read
  pure (s.emit t, rest)

/-- A block scalar, behind which a key can begin. -/
def block (s : Layout) (rest : Input) (fold : Bool) : Step := do
  let s := (← s.dropCandidate).allowKey true
  let (text, rest) ← Block.read fold s.margin rest
  pure (s.emit (.scalar text (if fold then .folded else .literal)), rest)

/-- A plain scalar. If line ends follow it, a key can begin behind it. -/
def plain (s : Layout) (p : Placed) (rest : Input) : Step := do
  let s := (← s.noteCandidate p).allowKey false
  let scalar ← PlainScalar.read s.inFlow s.margin (p :: rest)
  pure ((s.allowKey scalar.endsLine).emit (.scalar scalar.text .plain), scalar.rest)

/-- The token at a character that is neither blank nor a line end. -/
def token (s : Layout) (p : Placed) (rest : Input) : Step := do
  let quoted (r : Except Defect (String × Input)) : Step :=
    s.single p (r.map fun (text, rest) => (.scalar text .quoted, rest))
  if p.column = 0 && p.char = '%' then
    let s ← s.closeAll
    let (t, rest) ← readDirective rest
    pure (s.emit t, rest)
  else if Input.atMarker (p :: rest) then
    let t := if p.char = '-' then Token.documentStart else .documentEnd
    pure ((← s.closeAll).emit t, rest.drop 2)
  else if p.char = '[' then s.openFlow p rest .flowSequence
  else if p.char = '\x7b' then s.openFlow p rest .flowMapping
  else if p.char = ']' then s.closeFlow rest .flowSequenceEnd
  else if p.char = '\x7d' then s.closeFlow rest .flowMappingEnd
  else if p.char = ',' then s.comma rest
  else if p.char = '-' && Input.atGap rest then s.dash p rest
  else if p.char = '?' && (s.inFlow || Input.atGap rest) then s.question p rest
  else if p.char = ':' && (s.inFlow || Input.atGap rest) then s.colon p rest
  else if p.char = '*' then
    s.single p ((readAnchorName rest).map fun (name, rest) => (.alias name, rest))
  else if p.char = '&' then
    s.single p ((readAnchorName rest).map fun (name, rest) => (.anchor name, rest))
  else if p.char = '!' then s.single p (readTag s.inFlow (p :: rest))
  else if p.char = '|' && !s.inFlow then s.block rest false
  else if p.char = '>' && !s.inFlow then s.block rest true
  else if p.char = '\'' then quoted (QuotedScalar.single rest)
  else if p.char = '\x22' then quoted (QuotedScalar.double rest)
  else if PlainScalar.begins s.inFlow (p :: rest) then s.plain p rest
  else throw .malformedToken

/-- Reads up to the end. Every token takes at least one character, so the number of
characters bounds the number of rounds. -/
def readFrom : Nat → Layout → Input → Except Defect Layout
  | 0, _, _ => .error .malformedToken
  | rounds + 1, s, input => do
    match skipGap s.inFlow s.keyAllowed false input with
    | (_, []) =>
      let s ← s.candidates.foldlM (fun s c => do let _ ← giveUp c; pure s) s
      pure (s.closeBlocks 0)
    | (allowed, p :: rest) =>
      let s ← (s.allowKey allowed).dropStale p
      let (s, rest) ← (s.closeBlocks (p.column + 1)).token p rest
      readFrom rounds s rest

/-- The tokens in order, with the places of keys filled. -/
def tokens (s : Layout) : List Token :=
  s.pieces.reverse.flatMap fun
    | .token t => [t]
    | .place n =>
      match s.keys.lookup n with
      | none => []
      | some true => [.blockMapping, .key]
      | some false => [.key]

end Layout

/-- The tokens of a document. -/
def tokens (text : String) : Except Defect (List Token) := do
  let input ← Input.ofString text
  let layout ← Layout.readFrom (input.length + 1) Layout.start input
  pure layout.tokens

end LcdCompositor.Yaml
