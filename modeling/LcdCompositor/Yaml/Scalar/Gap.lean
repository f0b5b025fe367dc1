import LcdCompositor.Yaml.Source

/-!
# Gaps inside scalars

Between two words of a plain or quoted scalar there can be blanks and line ends.
Blanks at the end and at the beginning of a line do not count. A single line end
counts as a space; of several the first is dropped. A separator of Unicode is not
folded, and neither is anything behind an escaped line end.
-/

namespace LcdCompositor.Yaml

/-- A gap that is being read. -/
structure Gap where
  /-- The blanks in front of the first line end, the last one first. -/
  blanks : List Char
  /-- The line ends, the last one first. -/
  breaks : List Char
  /-- Whether the gap began with an escaped line end. -/
  spliced : Bool
deriving DecidableEq, Repr

namespace Gap

/-- Nothing has been read since the last word. -/
def empty : Gap := ⟨[], [], false⟩

/-- The gap after an escaped line end. -/
def splice : Gap := ⟨[], [], true⟩

/-- Whether the gap has reached another line. -/
def crossesLine (g : Gap) : Bool := g.spliced || !g.breaks.isEmpty

/-- Adds a blank, which counts as long as the line has not ended. -/
def addBlank (g : Gap) (c : Char) : Gap :=
  if g.crossesLine then g else { g with blanks := c :: g.blanks }

/-- Adds a line end. -/
def addBreak (g : Gap) (c : Char) : Gap := { g with blanks := [], breaks := c :: g.breaks }

/-- What line ends amount to, given in order. -/
def fold : List Char → List Char
  | ['\n'] => [' ']
  | '\n' :: more => more
  | breaks => breaks

/-- What the gap contributes to the scalar. -/
def text (g : Gap) : List Char :=
  if g.spliced then g.breaks.reverse
  else if g.breaks.isEmpty then g.blanks.reverse
  else fold g.breaks.reverse

end Gap

end LcdCompositor.Yaml
