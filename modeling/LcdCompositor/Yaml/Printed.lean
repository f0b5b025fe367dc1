import LcdCompositor.Yaml.Source
import LcdCompositor.Yaml.Schema
import LcdCompositor.Text.Quoted

/-!
# Records in writing

A record is written as a block mapping, one field a line, with nested records two
columns deeper. A string is written plainly if it then reads back as itself, between
apostrophes if that helps, and between double quotes with escapes otherwise; a
string of several lines is written as a literal block.
-/

namespace LcdCompositor.Yaml

/-- A field without parts. -/
inductive Atom
  | null
  | flag (b : Bool)
  | number (n : Nat)
  | text (s : String)
deriving DecidableEq, Repr

/-- A field of a record of at most one nesting. -/
inductive Field
  | atom (a : Atom)
  | record (fields : List (String × Atom))
deriving DecidableEq, Repr

/-- The ways to write a string. -/
inductive Form
  | plain
  | single
  | double
  | literal
deriving DecidableEq, Repr

/-- Whether a character can be written as it is. -/
def isPrintable (c : Char) : Bool :=
  let n := c.toNat
  c = '\n' || (0x20 ≤ n && n ≤ 0x7e) || (0xa0 ≤ n && n ≤ 0xfffd && c != byteOrderMark) ||
    0x10000 ≤ n

/-- Whether a string has two neighbours with given properties. -/
def hasNeighbours (first second : Char → Bool) (cs : List Char) : Bool :=
  (cs.zip (cs.drop 1)).any fun (a, b) => first a && second b

def isSpace (c : Char) : Bool := c = ' '

/-- Whether a blank, a line end or the end begins the characters. -/
def gapFollows : List Char → Bool
  | [] => true
  | c :: _ => isBlank c || isBreak c

/-- Whether a string begins like a mark of structure. -/
def beginsLikeMark : List Char → Bool
  | [] => false
  | c :: rest =>
    ['#', ',', '[', ']', '\x7b', '\x7d', '&', '*', '!', '|', '>', '\'', '\x22', '%', '@',
      '\x60'].contains c ||
    (['?', ':', '-'].contains c && gapFollows rest) ||
    (c :: rest).take 3 = ['-', '-', '-'] || (c :: rest).take 3 = ['.', '.', '.']

/-- Whether a colon or a comment inside a string would end it. -/
def holdsMark : List Char → Bool
  | [] => false
  | c :: rest =>
    (rest.head? = some ':' && gapFollows (rest.drop 1)) ||
    (rest.head? = some '#' && gapFollows [c]) || holdsMark rest

/-- Whether nothing but escapes will do. -/
def needsEscapes (cs : List Char) : Bool :=
  cs.any (!isPrintable ·) || hasNeighbours isSpace isBreak cs

/-- Whether a string reads back when it is written plainly. -/
def plainWorks (cs : List Char) : Bool :=
  let edge (c : Option Char) : Bool := c.any fun c => isSpace c || isBreak c
  !(needsEscapes cs || edge cs.head? || edge cs.getLast? || cs.any isBreak ||
    beginsLikeMark cs || holdsMark cs)

/-- Whether a string reads back from between apostrophes. -/
def singleWorks (cs : List Char) : Bool :=
  !(needsEscapes cs || hasNeighbours isBreak isSpace cs)

/-- Whether a string reads back from a literal block. -/
def literalWorks (cs : List Char) : Bool := !(needsEscapes cs || cs.getLast?.any isSpace)

/-- The form in which a string is written. -/
def formOf (s : String) : Form :=
  let cs := s.toList
  if cs.contains '\n' then if literalWorks cs then .literal else .double
  else if !isAmbiguous s && plainWorks cs then .plain
  else if singleWorks cs then .single
  else .double

/-- A number in base sixteen with capital letters, at least `width` digits. -/
def paddedHex (width n : Nat) : List Char :=
  let digits := (Text.hexDigits n).map Char.toUpper
  List.replicate (width - digits.length) '0' ++ digits

/-- What stands behind the backslash for a character. -/
def escapeName (c : Char) : List Char :=
  let n := c.toNat
  if n = 0x00 then ['0']
  else if n = 0x07 then ['a']
  else if n = 0x08 then ['b']
  else if n = 0x09 then ['t']
  else if n = 0x0a then ['n']
  else if n = 0x0b then ['v']
  else if n = 0x0c then ['f']
  else if n = 0x0d then ['r']
  else if n = 0x1b then ['e']
  else if c = '\x22' || c = '\x5c' then [c]
  else if n = 0x85 then ['N']
  else if n = 0x2028 then ['L']
  else if n = 0x2029 then ['P']
  else if n ≤ 0xff then 'x' :: paddedHex 2 n
  else if n ≤ 0xffff then 'u' :: paddedHex 4 n
  else 'U' :: paddedHex 8 n

/-- A string between double quotes. -/
def doubleQuoted (cs : List Char) : List Char :=
  let one (c : Char) : List Char :=
    if !isPrintable c || isBreak c || c = '\x22' || c = '\x5c' then '\x5c' :: escapeName c
    else [c]
  '\x22' :: cs.flatMap one ++ ['\x22']

/-- Spaces up to a column. -/
def spaces (indent : Nat) : List Char := List.replicate indent ' '

/-- A string between apostrophes. A line that goes on after a line end is indented. -/
def singleQuoted (indent : Nat) (cs : List Char) : List Char :=
  '\'' :: go false cs
where
  go (broken : Bool) : List Char → List Char
    | [] => (if broken then spaces indent else []) ++ ['\'']
    | c :: rest =>
      if isBreak c then c :: go true rest
      else
        (if broken then spaces indent else []) ++ (if c = '\'' then ['\'', '\''] else [c]) ++
          go false rest

/-- The header of a literal block: the indentation where the first line does not show
it, and a sign unless exactly one line end is at the end. -/
def literalHeader (cs : List Char) : List Char :=
  let hint := if cs.head?.any (fun c => isSpace c || isBreak c) then ['2'] else []
  let chomping :=
    match cs.reverse with
    | [] => ['-']
    | [c] => if isBreak c then ['+'] else ['-']
    | last :: before :: _ =>
      if !isBreak last then ['-'] else if isBreak before then ['+'] else []
  '|' :: hint ++ chomping

/-- The lines of a literal block, empty ones without indentation. -/
def literalLines (indent : Nat) (fresh : Bool) : List Char → List Char
  | [] => []
  | c :: rest =>
    if isBreak c then c :: literalLines indent true rest
    else (if fresh then spaces indent else []) ++ c :: literalLines indent false rest

/-- A string with the line end behind it. Continuation lines stand at `indent`. -/
def writeText (indent : Nat) (s : String) : List Char :=
  let cs := s.toList
  match formOf s with
  | .plain => cs ++ ['\n']
  | .single => singleQuoted indent cs ++ ['\n']
  | .double => doubleQuoted cs ++ ['\n']
  | .literal =>
    literalHeader cs ++ '\n' :: literalLines indent true cs ++
      if cs.getLast?.any isBreak then [] else ['\n']

/-- A field without parts, with the line end behind it. -/
def writeAtom (indent : Nat) : Atom → List Char
  | .null => "null\n".toList
  | .flag b => (if b then "true\n" else "false\n").toList
  | .number n => (Nat.toDigits 10 n) ++ ['\n']
  | .text s => writeText indent s

/-- A field with its name. -/
def writeField (name : String) : Field → List Char
  | .atom a => name.toList ++ ':' :: ' ' :: writeAtom 2 a
  | .record fields =>
    name.toList ++ ':' :: '\n' ::
      fields.flatMap fun (part, a) => spaces 2 ++ part.toList ++ ':' :: ' ' :: writeAtom 4 a

/-- A record as a document. -/
def writeRecord (fields : List (String × Field)) : String :=
  String.ofList (fields.flatMap fun (name, field) => writeField name field)

end LcdCompositor.Yaml
