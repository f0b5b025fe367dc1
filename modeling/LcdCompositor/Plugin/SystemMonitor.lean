import LcdCompositor.Plugin

/-!
# The system monitor

Host name, processor and memory load, and the network rates, redrawn from a fresh
reading on every tick. A feed hands out the readings.
-/

namespace LcdCompositor

/-- One reading of everything that the monitor shows. Rates come as text. -/
structure Snapshot where
  hostname : String
  cpuPercent : UInt8
  memoryPercent : UInt8
  receiveRate : String
  transmitRate : String
deriving DecidableEq, Repr

namespace Snapshot

/-- What is shown where nothing else is known. -/
def standard : Snapshot := ⟨"localhost", 0, 0, "0B/s", "0B/s"⟩

end Snapshot

/-- Readings to come. The last one repeats for ever; an empty feed repeats the
standard reading. -/
structure SensorFeed where
  readings : List Snapshot
deriving DecidableEq, Repr

namespace SensorFeed

/-- The next reading and the feed behind it. -/
def sample : SensorFeed → Snapshot × SensorFeed
  | ⟨[]⟩ => (Snapshot.standard, ⟨[]⟩)
  | ⟨[reading]⟩ => (reading, ⟨[reading]⟩)
  | ⟨reading :: rest⟩ => (reading, ⟨rest⟩)

end SensorFeed

namespace SystemMonitor

def identity : Identity := ⟨2, "System Monitor", "CPU, memory and network"⟩

def hostnameRow : Int := 1

def labelColumn : Int := 2

def barColumn : Nat := 24

def cpuRow : Nat := 12

def memoryRow : Nat := 22

def percentColumn : Int := 130

/-- The line between the two rates. -/
def separatorColumn : UInt16 := 80

def separatorRow : Nat := 33

def separatorRows : Nat := 9

def rateRow : Int := 34

/-- Columns between a rate and the separator. -/
def rateGap : UInt16 := 3

/-- A load as text, three digits wide and at most 100. -/
def percentText (percent : UInt8) : String :=
  Text.padLeft 3 (toString (min percent.toNat 100)) ++ "%"

/-- Label, bar and percentage of one load. -/
def load (scene : Scene) (label : String) (percent : UInt8) (row : Nat) : Scene :=
  let scene := scene.write .current .mono5x8 label labelColumn row
  let scene := scene.bar percent.toNat barColumn row
  scene.write .current .mono5x8 (percentText percent) percentColumn row

/-- Where the transmit rate starts, so that it ends in front of the separator. A
text too wide for that starts at the left edge. The sum of gap and width has to fit
into a word. -/
def transmitColumn (width : Nat) : Machine Nat := do
  let reach ← Machine.add rateGap.toNat width
  return separatorColumn.toNat - reach

/-- Host name, loads and separator, over nothing that was there before. -/
def drawLoads (scene : Scene) (reading : Snapshot) : Scene :=
  let scene := scene.clear
  let scene := scene.write .current .mono6x8 reading.hostname (-1) hostnameRow
  let scene := load scene "CPU" reading.cpuPercent cpuRow
  let scene := load scene "MEM" reading.memoryPercent memoryRow
  scene.line separatorColumn.toNat separatorRow separatorRows

/-- The transmit rate from a column on, and the receive rate behind the separator. -/
def writeRates (scene : Scene) (reading : Snapshot) (column : Nat) : Scene :=
  let scene := scene.write .current .mono5x8 reading.transmitRate column rateRow
  scene.write .current .mono5x8 reading.receiveRate (separatorColumn + rateGap).toNat rateRow

/-- Both rates. The machine stops before the first of them if no place is found for it. -/
def drawRates (scene : Scene) (reading : Snapshot) : Scene × Option Stop :=
  let (width, studio) := scene.studio.textWidth .mono5x8 reading.transmitRate
  let scene := { scene with studio }
  match transmitColumn width with
  | .error stop => (scene, some stop)
  | .ok column => (writeRates scene reading column, none)

/-- One dark frame, to be drawn on every tick. -/
def setUp (_ : Setting) (scene : Scene) : Scene × Option Fault :=
  scene.settle (scene.screen.addBlank 0)

/-- Takes a reading and draws it on the frame on show. -/
def refresh (feed : SensorFeed) (scene : Scene) : Refreshed SensorFeed :=
  let (reading, feed) := feed.sample
  let (scene, stop) := drawRates (drawLoads scene reading) reading
  ⟨feed, scene, stop.map .stop⟩

/-- The monitor over a feed. -/
def plugin (feed : SensorFeed) : Plugin SensorFeed :=
  ⟨Screen.new identity Tempo.normal, ⟨setUp, refresh⟩, feed⟩

end SystemMonitor

end LcdCompositor
