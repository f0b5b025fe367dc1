/-!
# Reading integers

A number is an optional plus sign, for signed numbers also a minus sign, and one
or more digits. The digits are read from the left: a character that is no digit
is reported when it is reached, and so is a value that has left the range, so of
two defects the leftmost is the one that is named. Leading zeros do not matter.
-/

namespace LcdCompositor.Text

/-- Why a text is no integer of the wanted range. -/
inductive IntegerFault
  | empty
  | invalidDigit
  | tooLarge
  | tooSmall
deriving DecidableEq, Repr

namespace IntegerFault

/-- The reason as it stands in messages. -/
def message : IntegerFault → String
  | empty => "cannot parse integer from empty string"
  | invalidDigit => "invalid digit found in string"
  | tooLarge => "number too large to fit in target type"
  | tooSmall => "number too small to fit in target type"

end IntegerFault

/-- The value of a digit, letters of either case standing for ten and up. -/
def digitValue (radix : Nat) (c : Char) : Option Nat :=
  let n := c.toNat
  let value :=
    if 0x30 ≤ n && n ≤ 0x39 then n - 0x30
    else if 0x61 ≤ n && n ≤ 0x7a then n - 0x61 + 10
    else if 0x41 ≤ n && n ≤ 0x5a then n - 0x41 + 10
    else radix
  if value < radix then some value else none

/-- Reads on from `acc`, which has to stay at or below `limit`. The fault for a
value beyond the limit depends on the sign that stood in front. -/
def readDigits (radix limit : Nat) (beyond : IntegerFault) (acc : Nat) :
    List Char → Except IntegerFault Nat
  | [] => .ok acc
  | c :: rest =>
    match digitValue radix c with
    | none => .error .invalidDigit
    | some d =>
      if acc * radix + d ≤ limit then readDigits radix limit beyond (acc * radix + d) rest
      else .error beyond

/-- One or more digits. -/
def readMagnitude (radix limit : Nat) (beyond : IntegerFault) :
    List Char → Except IntegerFault Nat
  | [] => .error .invalidDigit
  | digits => readDigits radix limit beyond 0 digits

/-- Reads a number from 0 to `limit`. -/
def readUnsigned (radix limit : Nat) (s : String) : Except IntegerFault Nat :=
  match s.toList with
  | [] => .error .empty
  | '+' :: digits => readMagnitude radix limit .tooLarge digits
  | digits => readMagnitude radix limit .tooLarge digits

/-- Reads a number from `-(limit + 1)` to `limit`. -/
def readSigned (radix limit : Nat) (s : String) : Except IntegerFault Int :=
  match s.toList with
  | [] => .error .empty
  | '+' :: digits => (readMagnitude radix limit .tooLarge digits).map Int.ofNat
  | '-' :: digits =>
    (readMagnitude radix (limit + 1) .tooSmall digits).map fun n => -Int.ofNat n
  | digits => (readMagnitude radix limit .tooLarge digits).map Int.ofNat

end LcdCompositor.Text
