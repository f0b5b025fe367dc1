/-!
# Blank characters

The characters of Unicode with the property White_Space. They are what a name must
not consist of alone.
-/

namespace LcdCompositor.Text

/-- The ranges of the property, each given by its first and its last code. -/
def blankRanges : List (Nat × Nat) :=
  [(0x09, 0x0d), (0x20, 0x20), (0x85, 0x85), (0xa0, 0xa0), (0x1680, 0x1680),
    (0x2000, 0x200a), (0x2028, 0x2029), (0x202f, 0x202f), (0x205f, 0x205f),
    (0x3000, 0x3000)]

/-- Whether a character is blank. -/
def isBlank (c : Char) : Bool :=
  blankRanges.any fun (first, last) => first ≤ c.toNat && c.toNat ≤ last

/-- Whether nothing but blank characters is there. -/
def isAllBlank (s : String) : Bool := s.toList.all isBlank

end LcdCompositor.Text
