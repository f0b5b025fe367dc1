/-!
# Log records

What the compositor reports while it runs. A record has a level and a text; a
filter lets records through down to its own level.
-/

namespace LcdCompositor

/-- How serious a record is, the gravest first. -/
inductive Level
  | error
  | warn
  | info
deriving DecidableEq, Repr

namespace Level

/-- The level as it stands in front of a record. -/
def label : Level → String
  | error => "ERROR"
  | warn => "WARN"
  | info => "INFO"

/-- Higher ranks are less serious. -/
def rank : Level → Nat
  | error => 1
  | warn => 2
  | info => 3

end Level

/-- One line of the log. -/
structure Record where
  level : Level
  text : String
deriving DecidableEq, Repr

namespace Record

/-- A record as one line. -/
def line (r : Record) : String := r.level.label ++ " " ++ r.text

end Record

/-- The names of log filters. -/
def filterNames : List String := ["off", "error", "warn", "info", "debug", "trace"]

/-- Lower case for the letters of ASCII; other characters stay. -/
def asciiLower (s : String) : String :=
  s.map fun c => if 'A' ≤ c && c ≤ 'Z' then Char.ofNat (c.toNat + 32) else c

/-- The rank down to which a filter lets records through: the place of its name,
written in either case. -/
def filterRank (name : String) : Nat := filterNames.idxOf (asciiLower name)

/-- Whether a filter lets a record through. -/
def Record.passes (r : Record) (filter : String) : Bool := r.level.rank ≤ filterRank filter

end LcdCompositor
