import LcdCompositor.Yaml.Token
import LcdCompositor.Yaml.Source
import LcdCompositor.Text.Integer

/-!
# Tags, anchors and directives

The tokens that are not content: names of anchors, tags with their handles, and
the directives in front of a document.
-/

namespace LcdCompositor.Yaml

/-- The characters that may stand in a tag as they are. -/
def isTagChar (c : Char) : Bool :=
  isNameChar c ||
    [';', '/', '?', ':', '@', '&', '=', '+', '$', '.', '!', '~', '*', '\'', '(', ')'].contains c

/-- How many octets a character takes, by its first one. -/
def octetCount (first : Nat) : Option Nat :=
  if first < 0x80 then some 1
  else if 0xc0 ≤ first && first < 0xe0 then some 2
  else if 0xe0 ≤ first && first < 0xf0 then some 3
  else if 0xf0 ≤ first && first < 0xf8 then some 4
  else none

/-- The octet that two digits spell. -/
def octet (high low : Placed) : Option Nat := do
  pure (16 * (← Text.digitValue 16 high.char) + (← Text.digitValue 16 low.char))

/-- Reads on in a tag. Octets behind percent signs have to make up whole characters,
of which `owed` octets are missing; `acc` holds the last octet first. Flow marks
belong to the tag only where `marks` says so. -/
def readTagText (marks : Bool) (owed : Nat) (acc : Tag) : Input → Except Defect (Tag × Input)
  | [] => if owed = 0 then .ok (acc.reverse, []) else .error .malformedToken
  | p :: rest =>
    if p.char = '%' then
      match rest with
      | high :: low :: more =>
        match octet high low with
        | none => .error .malformedToken
        | some n =>
          if owed = 0 then
            match octetCount n with
            | none => .error .malformedToken
            | some count => readTagText marks (count - 1) (n.toUInt8 :: acc) more
          else if 0x80 ≤ n && n < 0xc0 then readTagText marks (owed - 1) (n.toUInt8 :: acc) more
          else .error .malformedToken
      | _ => .error .malformedToken
    else if owed ≠ 0 then .error .malformedToken
    else if isTagChar p.char || (marks && [',', '[', ']'].contains p.char) then
      readTagText marks 0 (p.char.toNat.toUInt8 :: acc) rest
    else .ok (acc.reverse, p :: rest)

/-- The part of a tag that counts: a zero octet ends it. -/
def Tag.significant (tag : Tag) : Tag := tag.takeWhile (· ≠ 0)

/-- A tag text of at least one octet. -/
def readTagBody (marks : Bool) (input : Input) : Except Defect (Tag × Input) := do
  let (text, rest) ← readTagText marks 0 [] input
  if text.isEmpty then .error .malformedToken else .ok (text.significant, rest)

/-- A handle, which begins with an exclamation mark: the mark, name characters and, if
there is one, a closing mark. -/
def readHandle (input : Input) : Except Defect (String × Input) :=
  if !input.nextIs (· = '!') then .error .malformedToken
  else
    let (name, rest) := Input.run isNameChar (input.drop 1)
    if Input.nextIs (· = '!') rest then .ok ("!" ++ name ++ "!", rest.drop 1)
    else .ok ("!" ++ name, rest)

/-- Whether a handle has its closing mark. -/
def isClosedHandle (handle : String) : Bool := handle.length ≥ 2 && handle.endsWith "!"

/-- A tag, from its opening mark on. A tag in angle brackets is complete. Of
the others, one without a closed handle belongs to the handle that is a lone mark;
the lone mark itself is a tag. -/
def readTag (inFlow : Bool) (input : Input) : Except Defect (Token × Input) := do
  let (token, rest) ←
    if Input.nextIs (· = '<') (input.drop 1) then do
      let (text, rest) ← readTagBody true (input.drop 2)
      if Input.nextIs (· = '>') rest then pure (Token.tag "" text, rest.drop 1)
      else throw .malformedToken
    else do
      let (handle, rest) ← readHandle input
      if isClosedHandle handle then do
        let (suffix, rest) ← readTagBody false rest
        pure (Token.tag handle suffix, rest)
      else do
        let (text, rest) ← readTagText false 0 [] (input.drop 1)
        let suffix := text.significant
        let tag :=
          if suffix.isEmpty then Token.tag "" (Tag.ofString "!") else Token.tag "!" suffix
        pure (tag, rest)
  if Input.atGap rest || (inFlow && Input.nextIs (· = ',') rest) then pure (token, rest)
  else throw .malformedToken

/-- The name of an anchor or an alias, whose mark has been read. -/
def readAnchorName (input : Input) : Except Defect (String × Input) :=
  let (name, rest) := Input.run isNameChar input
  if !name.isEmpty && (Input.atGap rest ||
      Input.nextIs (['?', ':', ',', ']', '\x7d', '%', '@', '\x60'].contains ·) rest) then
    .ok (name, rest)
  else .error .malformedToken

/-- A number of at most nine digits. -/
def readVersionPart (input : Input) : Except Defect (Nat × Input) :=
  let (digits, rest) := Input.run Char.isDigit input
  if 1 ≤ digits.length && digits.length ≤ 9 then
    .ok (digits.toList.foldl (fun n c => 10 * n + (c.toNat - '0'.toNat)) 0, rest)
  else .error .malformedToken

/-- The numbers of the version directive. -/
def readVersion (input : Input) : Except Defect (Token × Input) := do
  let (major, rest) ← readVersionPart input.skipBlanks
  if !Input.nextIs (· = '.') rest then throw .malformedToken
  let (minor, rest) ← readVersionPart (rest.drop 1)
  pure (.version major minor, rest)

/-- Handle and expansion of the tag directive. Its handle is closed or a lone mark. -/
def readTagHandle (input : Input) : Except Defect (Token × Input) := do
  let (handle, rest) ← readHandle input.skipBlanks
  if !isClosedHandle handle && handle != "!" then throw .malformedToken
  if !Input.nextIs isBlank rest then throw .malformedToken
  let (expansion, rest) ← readTagBody true (Input.skipBlanks rest)
  if rest.atGap then pure (.tagHandle handle expansion, rest) else throw .malformedToken

/-- A directive whose percent sign has been read, up to the end of its line. -/
def readDirective (input : Input) : Except Defect (Token × Input) := do
  let (name, rest) := Input.run isNameChar input
  if name.isEmpty || !Input.atGap rest then throw .malformedToken
  let (token, rest) ← match name with
    | "YAML" => readVersion rest
    | "TAG" => readTagHandle rest
    | _ => throw .malformedToken
  pure (token, ← rest.closeLine)

end LcdCompositor.Yaml
