/-!
# Machine words

A machine keeps a position in sixteen bits, and shifts a byte by less than eight places.
Where a number does not fit, or an index is outside the memory, it stops in the middle of
its work. What it has done until then stays done.
-/

namespace LcdCompositor

/-- Why a machine stops in the middle of its work. -/
inductive Stop
  | overflow (value : Nat)
  | underflow (a b : Nat)
  | shift (amount : Nat)
  | outside (index length : Nat)
deriving DecidableEq, Repr

namespace Stop

/-- What is said when the machine has stopped. -/
def message : Stop → String
  | overflow value => s!"{value} does not fit into a word"
  | underflow a b => s!"{b} cannot be taken from {a}"
  | shift amount => s!"a byte cannot be shifted by {amount}"
  | outside index length => s!"index {index} is outside of {length}"

end Stop

/-- What a machine comes to, unless it stops. -/
abbrev Machine := Except Stop

namespace Machine

/-- The largest number in sixteen bits. -/
def wordLimit : Nat := 65535

def add (a b : Nat) : Machine Nat :=
  if a + b ≤ wordLimit then .ok (a + b) else .error (.overflow (a + b))

def sub (a b : Nat) : Machine Nat :=
  if b ≤ a then .ok (a - b) else .error (.underflow a b)

def mul (a b : Nat) : Machine Nat :=
  if a * b ≤ wordLimit then .ok (a * b) else .error (.overflow (a * b))

def shiftLeft (byte : UInt8) (amount : Nat) : Machine UInt8 :=
  if amount < 8 then .ok (byte <<< amount.toUInt8) else .error (.shift amount)

def shiftRight (byte : UInt8) (amount : Nat) : Machine UInt8 :=
  if amount < 8 then .ok (byte >>> amount.toUInt8) else .error (.shift amount)

end Machine

end LcdCompositor
