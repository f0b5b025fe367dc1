import LcdCompositor.Log
import LcdCompositor.Plugin.SystemMonitor
import LcdCompositor.Text.Blank

/-!
# Layers of settings

Settings come in layers, which are put one over the other. A layer leaves open what it
does not set, and may have no part for the panel or for the readings at all. Under all
layers are the defaults.
-/

namespace LcdCompositor

/-- Settings of the panel and of the run. -/
structure LcdLayer where
  dataDirectory : Option String
  productName : Option String
  pluginsMask : Option UInt64
  ticks : Option Nat
  realtime : Option Bool
  lockTick : Option Nat
  dumpFrame : Option String
  dumpBuffer : Option String
deriving DecidableEq, Repr

/-- Fixed readings for the system monitor. -/
structure SensorLayer where
  hostname : Option String
  cpuPercent : Option UInt8
  memoryPercent : Option UInt8
  receiveRate : Option String
  transmitRate : Option String
deriving DecidableEq, Repr

/-- One layer of settings. -/
structure Layer where
  logLevel : Option String
  lcd : Option LcdLayer
  sensors : Option SensorLayer
deriving DecidableEq, Repr

/-- Sets a field if there is a value for it, and leaves everything as it is otherwise. -/
def given {α β : Type} (value : Option α) (set : β → Option α → β) (b : β) : β :=
  if value.isSome then set b value else b

namespace LcdLayer

/-- Nothing is set. -/
def empty : LcdLayer := ⟨none, none, none, none, none, none, none, none⟩

/-- A layer after another one has been put over it. -/
def merge (lower upper : LcdLayer) : LcdLayer :=
  lower
    |> given upper.dataDirectory (fun l v => { l with dataDirectory := v })
    |> given upper.productName (fun l v => { l with productName := v })
    |> given upper.pluginsMask (fun l v => { l with pluginsMask := v })
    |> given upper.ticks (fun l v => { l with ticks := v })
    |> given upper.realtime (fun l v => { l with realtime := v })
    |> given upper.lockTick (fun l v => { l with lockTick := v })
    |> given upper.dumpFrame (fun l v => { l with dumpFrame := v })
    |> given upper.dumpBuffer (fun l v => { l with dumpBuffer := v })

end LcdLayer

namespace SensorLayer

/-- Nothing is set. -/
def empty : SensorLayer := ⟨none, none, none, none, none⟩

/-- A layer after another one has been put over it. -/
def merge (lower upper : SensorLayer) : SensorLayer :=
  lower
    |> given upper.hostname (fun l v => { l with hostname := v })
    |> given upper.cpuPercent (fun l v => { l with cpuPercent := v })
    |> given upper.memoryPercent (fun l v => { l with memoryPercent := v })
    |> given upper.receiveRate (fun l v => { l with receiveRate := v })
    |> given upper.transmitRate (fun l v => { l with transmitRate := v })

end SensorLayer

/-- A part of a layer after that of another one has been put over it. A part that is
missing below is taken as it is. -/
def mergePart {α : Type} (join : α → α → α) : Option α → Option α → Option α
  | none, some upper => some upper
  | some lower, some upper => some (join lower upper)
  | lower, none => lower

namespace Layer

/-- Nothing is set. -/
def empty : Layer := ⟨none, none, none⟩

/-- A layer after another one has been put over it. -/
def merge (lower upper : Layer) : Layer :=
  let l := given upper.logLevel (fun l v => { l with logLevel := v }) lower
  { l with
    lcd := mergePart LcdLayer.merge l.lcd upper.lcd
    sensors := mergePart SensorLayer.merge l.sensors upper.sensors }

end Layer

/-- Settings of the panel and of the run with every default filled in. -/
structure Settings where
  dataDirectory : String
  productName : String
  pluginsMask : UInt64
  ticks : Nat
  realtime : Bool
  lockTick : Option Nat
  dumpFrame : Option String
  dumpBuffer : Option String
deriving DecidableEq, Repr

/-- The number of ticks of a run where none is set. -/
def defaultTicks : Nat := 60

/-- The level of the log where none is set. -/
def defaultLogLevel : String := "info"

namespace LcdLayer

/-- The effective number of ticks. -/
def effectiveTicks (l : LcdLayer) : Nat := l.ticks.getD defaultTicks

/-- The layer over the defaults. By default every plugin is enabled. -/
def settings (l : LcdLayer) : Settings where
  dataDirectory := l.dataDirectory.getD "data"
  productName := l.productName.getD "KeyMonS"
  pluginsMask := l.pluginsMask.getD 0xffffffffffffffff
  ticks := l.effectiveTicks
  realtime := l.realtime.getD false
  lockTick := l.lockTick
  dumpFrame := l.dumpFrame
  dumpBuffer := l.dumpBuffer

end LcdLayer

namespace SensorLayer

/-- The layer over other readings. -/
def onto (l : SensorLayer) (s : Snapshot) : Snapshot where
  hostname := l.hostname.getD s.hostname
  cpuPercent := l.cpuPercent.getD s.cpuPercent
  memoryPercent := l.memoryPercent.getD s.memoryPercent
  receiveRate := l.receiveRate.getD s.receiveRate
  transmitRate := l.transmitRate.getD s.transmitRate

end SensorLayer

/-- The standard readings, with the name that the host has given itself unless it is
empty. -/
def Snapshot.ofHost (hostname : Option String) : Snapshot :=
  match hostname with
  | none => .standard
  | some name => if name.isEmpty then .standard else { Snapshot.standard with hostname := name }

namespace Layer

/-- The effective settings. -/
def settings (l : Layer) : Settings := (l.lcd.getD LcdLayer.empty).settings

/-- The effective filter of the log. -/
def logFilter (l : Layer) : String := l.logLevel.getD defaultLogLevel

/-- The effective readings on a host that may have a name. -/
def snapshot (l : Layer) (hostname : Option String) : Snapshot :=
  match l.sensors with
  | none => Snapshot.ofHost hostname
  | some sensors => sensors.onto (Snapshot.ofHost hostname)

end Layer

end LcdCompositor
