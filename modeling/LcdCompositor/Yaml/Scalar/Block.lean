import LcdCompositor.Yaml.Source

/-!
# Block scalars

A literal or folded scalar is a block of lines, indented deeper than what contains
it. Its header can fix the indentation and say what becomes of the line ends at
the end of the block: by default the first one is kept and the others are dropped.
-/

namespace LcdCompositor.Yaml

/-- What becomes of the line ends behind the last line. -/
inductive Chomping
  | strip
  | clip
  | keep
deriving DecidableEq, Repr

/-- What stands behind the mark that opens a block. -/
structure BlockHeader where
  chomping : Chomping
  /-- Columns deeper than the surroundings, if that is fixed. -/
  increment : Option Nat
deriving DecidableEq, Repr

namespace BlockHeader

/-- The sign that decides the chomping, if there is one. -/
def sign : Input → Option Chomping × Input
  | [] => (none, [])
  | p :: rest =>
    if p.char = '+' then (some .keep, rest)
    else if p.char = '-' then (some .strip, rest)
    else (none, p :: rest)

/-- The digit that fixes the indentation, if there is one. Zero is none. -/
def digit : Input → Except Defect (Option Nat × Input)
  | [] => .ok (none, [])
  | p :: rest =>
    if p.char = '0' then .error .malformedToken
    else if p.char.isDigit then .ok (some (p.char.toNat - '0'.toNat), rest)
    else .ok (none, p :: rest)

/-- Sign and digit, in either order, and nothing else on the line but a comment. -/
def read (input : Input) : Except Defect (BlockHeader × Input) := do
  let (early, input) := sign input
  let (increment, input) ← digit input
  let (late, input) := if early.isNone && increment.isSome then sign input else (none, input)
  let chomping := (early.or late).getD .clip
  pure (⟨chomping, increment⟩, ← input.closeLine)

end BlockHeader

/-- A block that is being read. The lists hold the last character first. -/
structure Block where
  text : List Char
  /-- The line end behind the last line with text, unless the block begins. -/
  lineEnd : List Char
  /-- The empty lines since then. -/
  emptyLines : List Char
  /-- Whether the last line with text began with a blank. -/
  wasBlank : Bool
  /-- Whether the reading stands inside a line with text. -/
  inLine : Bool

namespace Block

/-- Nothing has been read. -/
def empty : Block := ⟨[], [], [], false, false⟩

/-- Joins the next line with text, which begins with `c`. Folding turns the line end
between two lines into a space, or drops it if empty lines follow, unless one of
the two lines begins with a blank. -/
def beginLine (fold : Bool) (b : Block) (c : Char) : Block :=
  let between :=
    if fold && b.lineEnd = ['\n'] && !b.wasBlank && !isBlank c then
      if b.emptyLines.isEmpty then [' '] else b.emptyLines
    else b.emptyLines ++ b.lineEnd
  ⟨c :: (between ++ b.text), [], [], isBlank c, true⟩

/-- The whole scalar, with the line ends that are to stay. -/
def finish (b : Block) : Chomping → String
  | .strip => String.ofList b.text.reverse
  | .clip => String.ofList (b.lineEnd ++ b.text).reverse
  | .keep => String.ofList (b.emptyLines ++ b.lineEnd ++ b.text).reverse

/-- The deepest column that the empty lines and the first line with text reach, seen
from column `here`. -/
def depth (deepest here : Nat) : Input → Except Defect Nat
  | [] => .ok (max deepest here)
  | p :: rest =>
    if p.char = ' ' then depth deepest (p.column + 1) rest
    else if p.char = '\t' then .error .malformedToken
    else if isBreak p.char then depth (max deepest p.column) 0 rest
    else .ok (max deepest p.column)

/-- Reads on, at an indentation of `indent` columns. The block ends at the first
text to the left of that. -/
def readFrom (fold : Bool) (indent : Nat) (b : Block) : Input → Except Defect (Block × Input)
  | [] => .ok (b, [])
  | p :: rest =>
    if b.inLine then
      if isBreak p.char then
        readFrom fold indent { b with lineEnd := [p.char], inLine := false } rest
      else readFrom fold indent { b with text := p.char :: b.text } rest
    else if isBreak p.char then
      readFrom fold indent { b with emptyLines := p.char :: b.emptyLines } rest
    else if p.column < indent then
      if p.char = ' ' then readFrom fold indent b rest
      else if p.char = '\t' then .error .malformedToken
      else .ok (b, p :: rest)
    else if p.column = indent then readFrom fold indent (b.beginLine fold p.char) rest
    else .ok (b, p :: rest)

/-- The scalar behind the mark that opens a block. `margin` is the least column that
is deeper than the surroundings. -/
def read (fold : Bool) (margin : Nat) (input : Input) : Except Defect (String × Input) := do
  let (header, input) ← BlockHeader.read input
  let indent ← match header.increment with
    | some n => pure (if margin = 0 then n else margin - 1 + n)
    | none => do pure (max (max margin 1) (← depth 0 0 input))
  let (block, rest) ← readFrom fold indent empty input
  pure (block.finish header.chomping, rest)

end Block

end LcdCompositor.Yaml
