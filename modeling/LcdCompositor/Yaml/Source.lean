/-!
# The characters of a document

A document is read as a list of characters that know their line and column, so
that indentation can be compared wherever the reading has got to. All the usual
line ends are one character by then; only the two separators of Unicode keep
their identity.
-/

namespace LcdCompositor.Yaml

/-- Why a text is no document, or not one of the wanted shape. -/
inductive Defect
  | forbiddenCharacter
  | malformedToken
  | misplacedToken
  | unknownAnchor
  | unknownTag
  | severalDocuments
  | wrongShape
deriving DecidableEq, Repr

namespace Defect

/-- What is wrong, for people. -/
def message : Defect → String
  | forbiddenCharacter => "control characters are not allowed"
  | malformedToken => "malformed token"
  | misplacedToken => "misplaced token"
  | unknownAnchor => "unknown anchor"
  | unknownTag => "undefined tag handle"
  | severalDocuments => "more than one document"
  | wrongShape => "value of the wrong type"

end Defect

/-- A character and where it stands, counted from zero. -/
structure Placed where
  char : Char
  line : Nat
  /-- How many characters of its line are in front of it. -/
  column : Nat
  /-- How many octets of its line are in front of it. -/
  offset : Nat
deriving DecidableEq, Repr

/-- What is left to read. -/
abbrev Input := List Placed

/-- The mark that some editors put in front of a file. -/
def byteOrderMark : Char := '\ufeff'

/-- Whether a character may stand in a document at all. -/
def isAllowed (c : Char) : Bool :=
  let n := c.toNat
  c = '\t' || c = '\n' || c = '\r' || n = 0x85 || (0x20 ≤ n && n ≤ 0x7e) ||
    (0xa0 ≤ n && n ≤ 0xfffd) || 0x10000 ≤ n

/-- Line ends, after they have been unified. -/
def isBreak (c : Char) : Bool := c = '\n' || c = '\u2028' || c = '\u2029'

/-- Space and tab. -/
def isBlank (c : Char) : Bool := c = ' ' || c = '\t'

/-- The characters of names: letters, digits, hyphen and underscore. -/
def isNameChar (c : Char) : Bool := c.isAlphanum || c = '-' || c = '_'

/-- One character for each line end: a carriage return, alone or in front of a line
feed, and the next-line control become line feeds. -/
def unifyBreaks : List Char → List Char
  | [] => []
  | '\r' :: '\n' :: rest => '\n' :: unifyBreaks rest
  | c :: rest => (if c = '\r' || c = '\x85' then '\n' else c) :: unifyBreaks rest

/-- Gives every character its place, the first one the place given. -/
def placeFrom (line column offset : Nat) : List Char → Input
  | [] => []
  | c :: rest =>
    ⟨c, line, column, offset⟩ ::
      if isBreak c then placeFrom (line + 1) 0 0 rest
      else placeFrom line (column + 1) (offset + c.utf8Size) rest

namespace Input

/-- The characters of a text with their places. -/
def ofString (text : String) : Except Defect Input :=
  if text.toList.all isAllowed then .ok (placeFrom 0 0 0 (unifyBreaks text.toList))
  else .error .forbiddenCharacter

/-- Whether the next character has a property. At the end there is none. -/
def nextIs (test : Char → Bool) : Input → Bool
  | [] => false
  | p :: _ => test p.char

/-- Whether a blank, a line end or the end comes next. -/
def atGap : Input → Bool
  | [] => true
  | p :: _ => isBlank p.char || isBreak p.char

/-- Whether a line end or the end comes next. -/
def atLineEnd : Input → Bool
  | [] => true
  | p :: _ => isBreak p.char

/-- Whether three dashes or three dots stand alone at the beginning of a line. -/
def atMarker : Input → Bool
  | a :: b :: c :: rest =>
    a.column = 0 && (a.char = '-' || a.char = '.') && b.char = a.char && c.char = a.char &&
      atGap rest
  | _ => false

/-- The longest run of characters with a property, and what comes after it. -/
def run (test : Char → Bool) (input : Input) : String × Input :=
  (String.ofList ((input.takeWhile fun p => test p.char).map (·.char)),
    input.dropWhile fun p => test p.char)

/-- What comes after blanks. -/
def skipBlanks (input : Input) : Input := input.dropWhile fun p => isBlank p.char

/-- What comes after the rest of the line. -/
def skipLine (input : Input) : Input := input.dropWhile fun p => !isBreak p.char

/-- What comes after a line that may hold nothing more than a comment. -/
def closeLine (input : Input) : Except Defect Input :=
  let input := input.skipBlanks
  let input := if input.nextIs (· = '#') then input.skipLine else input
  if input.atLineEnd then .ok (input.drop 1) else .error .malformedToken

end Input

end LcdCompositor.Yaml
