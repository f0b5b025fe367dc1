import LcdCompositor.Yaml.Scalar.Gap

/-!
# Plain scalars

A plain scalar has no delimiters. It ends in front of a colon with a blank behind
it, in front of a comment, and where the indentation falls back; inside brackets
also in front of a comma or a bracket.
-/

namespace LcdCompositor.Yaml

/-- A scalar that has been read, whether line ends follow it, and what comes then. -/
structure PlainScalar where
  text : String
  endsLine : Bool
  rest : Input

namespace PlainScalar

def isFlowMark (c : Char) : Bool := c = ',' || c = '[' || c = ']' || c = '\x7b' || c = '\x7d'

/-- Whether a plain scalar may begin here. -/
def begins (inFlow : Bool) : Input → Bool
  | [] => false
  | p :: rest =>
    if p.char = '-' then !Input.nextIs isBlank rest
    else if p.char = '?' || p.char = ':' then !inFlow && !Input.atGap rest
    else !(isBlank p.char || isFlowMark p.char ||
      ['#', '&', '*', '!', '|', '>', '\'', '\x22', '%', '@', '\x60'].contains p.char)

/-- Reads on. Words are separated by gaps, and a gap belongs to the scalar only if a
word follows it. `margin` is the least column of a continuation line. -/
def readFrom (inFlow : Bool) (margin : Nat) (text : List Char) (gap : Gap) :
    Input → Except Defect PlainScalar
  | [] => .ok ⟨String.ofList text.reverse, gap.crossesLine, []⟩
  | p :: rest =>
    let stop : Except Defect PlainScalar :=
      .ok ⟨String.ofList text.reverse, gap.crossesLine, p :: rest⟩
    if isBlank p.char then
      if gap.crossesLine && p.char = '\t' && p.column < margin then .error .malformedToken
      else readFrom inFlow margin text (gap.addBlank p.char) rest
    else if isBreak p.char then readFrom inFlow margin text (gap.addBreak p.char) rest
    else if gap.crossesLine && !inFlow && p.column < margin then stop
    else if Input.atMarker (p :: rest) then stop
    else if p.char = '#' && gap != Gap.empty then stop
    else if inFlow && p.char = ':' && Input.nextIs (fun c => isFlowMark c || c = '?') rest then
      .error .malformedToken
    else if (p.char = ':' && Input.atGap rest) || (inFlow && isFlowMark p.char) then stop
    else readFrom inFlow margin (p.char :: (gap.text.reverse ++ text)) Gap.empty rest

/-- The plain scalar at the beginning of the input. -/
def read (inFlow : Bool) (margin : Nat) (input : Input) : Except Defect PlainScalar :=
  readFrom inFlow margin [] Gap.empty input

end PlainScalar

end LcdCompositor.Yaml
