import LcdCompositor.Settings.Layer

/-!
# Valid settings

What is refused once all layers are in place. The rules are tried in order and the
first one that is broken is reported.
-/

namespace LcdCompositor

/-- A rule that settings can break. -/
inductive Invalidity
  | configNotFound (path : String)
  | logLevel
  | productName
  | ticks
  /-- The tick of the lock has to lie within the run. -/
  | lockTick (last : Nat)
  | cpuPercent
  | memoryPercent
deriving DecidableEq, Repr

namespace Invalidity

/-- The names of the log levels, as a list in messages. -/
def levelList : String := "[" ++ ", ".intercalate (filterNames.map Text.quoted) ++ "]"

/-- What is wrong. -/
def message : Invalidity → String
  | configNotFound path => s!"Config file not found: {path}"
  | logLevel => "log_level must be one of " ++ levelList
  | productName => "lcd product_name must not be empty"
  | ticks => "lcd ticks must be > 0"
  | lockTick last => s!"lcd lock_tick must be in 1..={last}"
  | cpuPercent => "sensors cpu_percent must be 0..=100"
  | memoryPercent => "sensors memory_percent must be 0..=100"

end Invalidity

/-- The rules that settings of the panel break. -/
def LcdLayer.invalidities (l : LcdLayer) : List Invalidity :=
  (if l.productName.any Text.isAllBlank then [.productName] else []) ++
  (if l.ticks = some 0 then [.ticks] else []) ++
  (if l.lockTick.any (fun tick => tick = 0 || tick > l.effectiveTicks) then
    [.lockTick l.effectiveTicks] else [])

/-- The rules that readings break. -/
def SensorLayer.invalidities (l : SensorLayer) : List Invalidity :=
  (if l.cpuPercent.any (· > 100) then [.cpuPercent] else []) ++
  (if l.memoryPercent.any (· > 100) then [.memoryPercent] else [])

/-- The rules that a layer breaks, in the order in which they are tried. -/
def Layer.invalidities (l : Layer) : List Invalidity :=
  (if l.logLevel.any (fun level => !filterNames.contains (asciiLower level)) then
    [.logLevel] else []) ++
  (l.lcd.map LcdLayer.invalidities).getD [] ++
  (l.sensors.map SensorLayer.invalidities).getD []

end LcdCompositor
