import LcdCompositor.Text.Unprintable

/-!
# Quoted text and numbers in messages

Messages quote what a user or a file supplied, so that blanks, quotes and
invisible characters show. A string stands between double quotes and a character
between apostrophes; only the delimiter in use is escaped, besides the backslash
and whatever has no glyph.
-/

namespace LcdCompositor.Text

/-- The digits of a number in base sixteen, lower case, without leading zeros. -/
def hexDigits (n : Nat) : List Char := Nat.toDigits 16 n

/-- A number in base sixteen behind the usual marker. -/
def hex (n : Nat) : String := "0x" ++ String.ofList (hexDigits n)

/-- A mask of 64 bits at its full width of sixteen digits. -/
def hexMask (mask : UInt64) : String :=
  let digits := hexDigits mask.toNat
  "0x" ++ String.ofList (List.replicate (16 - digits.length) '0' ++ digits)

/-- One character inside a quotation that ends at `delimiter`. -/
def escape (delimiter c : Char) : List Char :=
  if c = delimiter || c = '\x5c' then ['\x5c', c]
  else if c = '\x00' then ['\x5c', '0']
  else if c = '\t' then ['\x5c', 't']
  else if c = '\n' then ['\x5c', 'n']
  else if c = '\r' then ['\x5c', 'r']
  else if isUnprintable c then ['\x5c', 'u', '\x7b'] ++ hexDigits c.toNat ++ ['\x7d']
  else [c]

/-- A string between double quotes. -/
def quoted (s : String) : String :=
  "\"" ++ String.ofList (s.toList.flatMap (escape '\x22')) ++ "\""

/-- A character between apostrophes. -/
def quotedChar (c : Char) : String :=
  "'" ++ String.ofList (escape '\x27' c) ++ "'"

/-- Pads on the right to `width` characters; longer text is kept whole. -/
def padRight (width : Nat) (s : String) : String :=
  s ++ String.ofList (List.replicate (width - s.length) ' ')

/-- Pads on the left to `width` characters; longer text is kept whole. -/
def padLeft (width : Nat) (s : String) : String :=
  String.ofList (List.replicate (width - s.length) ' ') ++ s

end LcdCompositor.Text
