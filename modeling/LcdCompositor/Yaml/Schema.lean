import LcdCompositor.Text.Integer

/-!
# What plain text means

A plain scalar can be null, a truth value or a number by its text alone. The same
rules decide what has to be quoted when a string is written.
-/

namespace LcdCompositor.Yaml

/-- The spellings of null. -/
def isNullText (s : String) : Bool := ["null", "Null", "NULL", "~"].contains s

/-- The truth value that a text spells. -/
def readBool (s : String) : Option Bool :=
  if ["true", "True", "TRUE"].contains s then some true
  else if ["false", "False", "FALSE"].contains s then some false
  else none

/-- A text without one sign in front. -/
def dropSign (signs : List Char) : List Char → List Char
  | c :: rest => if signs.contains c then rest else c :: rest
  | [] => []

/-- Whether a text begins with a sign. -/
def beginsWithSign : List Char → Bool
  | c :: _ => c = '+' || c = '-'
  | [] => false

/-- Whether a text is a row of digits that begins with an idle zero. Such a text is no
number, whatever its sign. -/
def hasIdleZero (cs : List Char) : Bool :=
  match dropSign ['+', '-'] cs with
  | '0' :: c :: rest => (c :: rest).all Char.isDigit
  | _ => false

/-- The radix that a marker in front of digits announces, and the digits. -/
def markedRadix : List Char → Option (Nat × List Char)
  | '0' :: 'x' :: digits => some (16, digits)
  | '0' :: 'o' :: digits => some (8, digits)
  | '0' :: 'b' :: digits => some (2, digits)
  | _ => none

/-- Digits alone, without a sign, as a number up to a limit. -/
def readBareDigits (radix limit : Nat) (digits : List Char) : Option Nat :=
  if beginsWithSign digits then none
  else (Text.readUnsigned radix limit (String.ofList digits)).toOption

/-- The number from 0 to `limit` that a text spells: an optional plus sign, and digits
in base ten or behind the marker of another radix. -/
def readNatural (limit : Nat) (s : String) : Option Nat :=
  let body := dropSign ['+'] s.toList
  match markedRadix body with
  | some (radix, digits) => readBareDigits radix limit digits
  | none => if hasIdleZero s.toList then none else readBareDigits 10 limit body

/-- Whether a text spells a number of at most 128 bits behind the marker of a radix. -/
def isMarkedInteger (s : String) : Bool :=
  match s.toList with
  | '-' :: body =>
    match markedRadix body with
    | some (radix, digits) => (readBareDigits radix (Nat.pow 2 127) digits).isSome
    | none => false
  | cs =>
    match markedRadix (dropSign ['+'] cs) with
    | some (radix, digits) => (readBareDigits radix (Nat.pow 2 128 - 1) digits).isSome
    | none => false

/-- The number that decimal digits spell. -/
def decimalValue (digits : List Char) : Nat :=
  digits.foldl (fun n c => 10 * n + (c.toNat - '0'.toNat)) 0

/-- The exponent behind a mantissa: nothing, or a letter and an integer. -/
def readExponent : List Char → Option Int
  | [] => some 0
  | c :: rest =>
    if c = 'e' || c = 'E' then
      let digits := dropSign ['+', '-'] rest
      if digits.isEmpty || !digits.all Char.isDigit then none
      else
        let n := Int.ofNat (decimalValue digits)
        some (if rest.head? = some '-' then -n else n)
    else none

/-- The least number that is too large for a double: half a unit beyond the largest. -/
def doubleLimit : Nat := Nat.pow 2 1024 - Nat.pow 2 970

/-- Whether `mantissa` times a power of ten fits a double. The number of digits decides
all but the closest cases. -/
def fitsDouble (mantissa : Nat) (exponent : Int) : Bool :=
  let magnitude := (Nat.toDigits 10 mantissa).length + exponent
  if mantissa = 0 || magnitude ≤ 308 then true
  else if magnitude ≥ 310 then false
  else if exponent ≥ 0 then mantissa * Nat.pow 10 exponent.toNat < doubleLimit
  else mantissa < doubleLimit * Nat.pow 10 exponent.natAbs

/-- Whether a text without sign spells a finite decimal number: digits with a point
among them, in front or behind, and an optional exponent. -/
def isDecimal (cs : List Char) : Bool :=
  let whole := cs.takeWhile Char.isDigit
  let rest := cs.dropWhile Char.isDigit
  let fraction := if rest.head? = some '.' then (rest.drop 1).takeWhile Char.isDigit else []
  let rest := if rest.head? = some '.' then (rest.drop 1).dropWhile Char.isDigit else rest
  if whole.isEmpty && fraction.isEmpty then false
  else
    match readExponent rest with
    | none => false
    | some e => fitsDouble (decimalValue (whole ++ fraction)) (e - fraction.length)

/-- Whether a text spells a decimal number, infinity or what is no number. -/
def isFloatText (s : String) : Bool :=
  [".inf", ".Inf", ".INF", "+.inf", "+.Inf", "+.INF", "-.inf", "-.Inf", "-.INF",
    ".nan", ".NaN", ".NAN"].contains s ||
    isDecimal (dropSign ['+', '-'] s.toList)

/-- Whether a plain text would be taken for something other than a string, or for a
number by a careless reader. -/
def isAmbiguous (s : String) : Bool :=
  s.isEmpty || isNullText s || (readBool s).isSome || isMarkedInteger s ||
    hasIdleZero s.toList || isFloatText s

end LcdCompositor.Yaml
