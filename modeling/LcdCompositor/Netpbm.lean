import LcdCompositor.Bitmap
import LcdCompositor.Text.Integer

/-!
# Portable bitmaps

The raw portable bitmap format: the magic token P4, width and height in decimal,
one blank, and the packed rows. Blanks and comments may stand in front of each of
the three tokens. A comment runs from a hash to the end of its line and also ends
a token. Exactly one blank follows the height, so rows may start with any byte,
and nothing may follow the rows.

The size is known to the reader beforehand; a file of another size is refused.
-/

namespace LcdCompositor.Netpbm

/-- The blanks between header tokens. A vertical tab is none. -/
def isBlank (byte : UInt8) : Bool :=
  byte == 0x20 || byte == 0x09 || byte == 0x0a || byte == 0x0c || byte == 0x0d

/-- Visible characters of ASCII. -/
def isGraphic (byte : UInt8) : Bool := 0x21 ≤ byte && byte ≤ 0x7e

/-- The start of a comment. -/
def hash : UInt8 := 0x23

/-- The end of a comment. -/
def newline : UInt8 := 0x0a

/-- The longest token a header can hold. -/
def tokenLimit : Nat := 8

/-- The bytes of a text of ASCII characters. -/
def asciiBytes (s : String) : List UInt8 := s.toList.map fun c => c.toNat.toUInt8

/-- The text of bytes that are all ASCII. -/
def asciiText (bytes : List UInt8) : String :=
  String.ofList (bytes.map fun byte => Char.ofNat byte.toNat)

/-- Drops blanks and comments. The flag says that a comment is open. -/
def skipBlanks (inComment : Bool) : List UInt8 → List UInt8
  | [] => []
  | byte :: rest =>
    if inComment then skipBlanks (byte != newline) rest
    else if byte == hash then skipBlanks true rest
    else if isBlank byte then skipBlanks false rest
    else byte :: rest

/-- Splits off the bytes in front of the next blank, comment or end of input.
At most `room` of them may come, all visible. -/
def splitToken : Nat → List UInt8 → Except Fault (List UInt8 × List UInt8)
  | _, [] => .ok ([], [])
  | room, byte :: rest =>
    if isBlank byte || byte == hash then .ok ([], byte :: rest)
    else
      match room with
      | 0 => .error (.format .malformedToken)
      | room + 1 =>
        if isGraphic byte then (splitToken room rest).map fun (token, left) => (byte :: token, left)
        else .error (.format .malformedToken)

/-- The next token of the header and what follows it. -/
def readToken (bytes : List UInt8) : Except Fault (String × List UInt8) :=
  match skipBlanks false bytes with
  | [] => .error (.io .endsInHeader)
  | byte :: rest =>
    (splitToken tokenLimit (byte :: rest)).map fun (token, left) => (asciiText token, left)

/-- The value of a token that stands for a side of the picture. -/
def dimension (axis : Axis) (token : String) : Except Fault UInt16 :=
  match Text.readUnsigned 10 65535 token with
  | .ok n => .ok n.toUInt16
  | .error _ => .error (.format (.dimension axis token))

/-- The size of a header is the expected one and can be packed. -/
def checkSize (found expected : Size) : Except Fault Unit :=
  if found ≠ expected then .error (.format (.unexpectedSize found expected))
  else if found.width.toNat % 8 ≠ 0 then .error (.format (.unalignedWidth found.width.toNat))
  else .ok ()

/-- The packed rows, given what follows the height. -/
def readRows (size : Size) : List UInt8 → Except Fault Bitmap
  | [] => .error (.shortRead size.packedLength 0)
  | separator :: rows =>
    if isBlank separator then
      if rows.length < size.packedLength then
        .error (.shortRead size.packedLength rows.length)
      else if size.packedLength < rows.length then .error .trailingData
      else Bitmap.ofBytes size rows.toArray
    else .error (.format .missingSeparator)

/-- Reads a bitmap of the expected size. -/
def read (expected : Size) (bytes : List UInt8) : Except Fault Bitmap := do
  let (magic, bytes) ← readToken bytes
  if magic ≠ "P4" then throw (.format (.magic magic))
  let (token, bytes) ← readToken bytes
  let width ← dimension .horizontal token
  let (token, bytes) ← readToken bytes
  let height ← dimension .vertical token
  checkSize ⟨width, height⟩ expected
  readRows expected bytes

/-- The header in front of the rows of a bitmap. -/
def header (size : Size) : String :=
  let width := size.width.toNat
  let height := size.height.toNat
  s!"P4\n{width} {height}\n"

/-- A bitmap as a file. -/
def write (b : Bitmap) : List UInt8 := asciiBytes (header b.size) ++ b.bytes.toList

end LcdCompositor.Netpbm
