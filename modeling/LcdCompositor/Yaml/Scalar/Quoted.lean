import LcdCompositor.Yaml.Scalar.Gap
import LcdCompositor.Text.Integer

/-!
# Quoted scalars

Between apostrophes, a doubled apostrophe stands for one and everything else for
itself. Between double quotes a backslash introduces escapes, and at the end of a
line it joins the line to the next one.
-/

namespace LcdCompositor.Yaml

namespace QuotedScalar

/-- Reads on between apostrophes. -/
def readSingle (text : List Char) (gap : Gap) : Input → Except Defect (String × Input)
  | [] => .error .malformedToken
  | p :: rest =>
    if isBlank p.char then readSingle text (gap.addBlank p.char) rest
    else if isBreak p.char then readSingle text (gap.addBreak p.char) rest
    else if Input.atMarker (p :: rest) then .error .malformedToken
    else
      let text := gap.text.reverse ++ text
      if p.char = '\'' then
        match rest with
        | q :: more =>
          if q.char = '\'' then readSingle ('\'' :: text) Gap.empty more
          else .ok (String.ofList text.reverse, rest)
        | [] => .ok (String.ofList text.reverse, rest)
      else readSingle (p.char :: text) Gap.empty rest

/-- The characters that a letter behind a backslash stands for. -/
def named : Char → Option Char
  | '0' => some '\x00'
  | 'a' => some '\x07'
  | 'b' => some '\x08'
  | 't' => some '\t'
  | '\t' => some '\t'
  | 'n' => some '\n'
  | 'v' => some '\x0b'
  | 'f' => some '\x0c'
  | 'r' => some '\r'
  | 'e' => some '\x1b'
  | ' ' => some ' '
  | '\x22' => some '\x22'
  | '/' => some '/'
  | '\x5c' => some '\x5c'
  | 'N' => some '\x85'
  | '_' => some '\xa0'
  | 'L' => some '\u2028'
  | 'P' => some '\u2029'
  | _ => none

/-- How many digits follow a letter that introduces a code. -/
def codeLength : Char → Option Nat
  | 'x' => some 2
  | 'u' => some 4
  | 'U' => some 8
  | _ => none

/-- The number that hexadecimal digits spell. -/
def code (digits : List Placed) : Option Nat :=
  digits.foldlM (fun n p => (Text.digitValue 16 p.char).map (16 * n + ·)) 0

/-- The character with a code. Surrogates and numbers beyond Unicode have none. -/
def charOfCode (n : Nat) : Option Char := if n.isValidChar then some (Char.ofNat n) else none

/-- Digits of a code that are still to be read, and the number so far. -/
structure Pending where
  digits : Nat
  code : Nat

/-- Reads on between double quotes. `pending` holds a code that is being read, and
`escaped` says that a backslash stands in front. -/
def readDouble (text : List Char) (gap : Gap) (escaped : Bool) (pending : Option Pending) :
    Input → Except Defect (String × Input)
  | [] => .error .malformedToken
  | p :: rest =>
    match pending with
    | some ⟨more, n⟩ =>
      match Text.digitValue 16 p.char with
      | none => .error .malformedToken
      | some d =>
        if more ≤ 1 then
          match charOfCode (16 * n + d) with
          | none => .error .malformedToken
          | some c => readDouble (c :: text) Gap.empty false none rest
        else readDouble text Gap.empty false (some ⟨more - 1, 16 * n + d⟩) rest
    | none =>
      if escaped then
        if isBreak p.char then readDouble text Gap.splice false none rest
        else
          match named p.char, codeLength p.char with
          | some c, _ => readDouble (c :: text) Gap.empty false none rest
          | none, some digits => readDouble text Gap.empty false (some ⟨digits, 0⟩) rest
          | none, none => .error .malformedToken
      else if isBlank p.char then readDouble text (gap.addBlank p.char) false none rest
      else if isBreak p.char then readDouble text (gap.addBreak p.char) false none rest
      else if Input.atMarker (p :: rest) then .error .malformedToken
      else
        let text := gap.text.reverse ++ text
        if p.char = '\x22' then .ok (String.ofList text.reverse, rest)
        else if p.char = '\x5c' then readDouble text Gap.empty true none rest
        else readDouble (p.char :: text) Gap.empty false none rest

/-- The scalar between apostrophes whose opening one has been read. -/
def single (input : Input) : Except Defect (String × Input) := readSingle [] Gap.empty input

/-- The scalar between double quotes whose opening one has been read. -/
def double (input : Input) : Except Defect (String × Input) :=
  readDouble [] Gap.empty false none input

end QuotedScalar

end LcdCompositor.Yaml
