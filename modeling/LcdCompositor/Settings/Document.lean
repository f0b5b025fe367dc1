import LcdCompositor.Settings.Layer
import LcdCompositor.Yaml.Fields
import LcdCompositor.Yaml.Printed

/-!
# Settings as documents

A layer of settings and a reading, as they stand in configuration files.
-/

namespace LcdCompositor

open Yaml (Defect Document Node)

/-- The text of a field. -/
def fieldText (d : Document) (node : Node) : Except Defect String := d.text node

/-- A mask of 64 bits. -/
def fieldMask (d : Document) (node : Node) : Except Defect UInt64 := do
  pure (← d.natural (UInt64.size - 1) node).toUInt64

/-- A count of ticks. -/
def fieldCount (d : Document) (node : Node) : Except Defect Nat := d.natural (UInt32.size - 1) node

/-- A percentage, which is not yet held to one hundred. -/
def fieldPercent (d : Document) (node : Node) : Except Defect UInt8 := do
  pure (← d.natural 255 node).toUInt8

/-- Settings of the panel from a node. -/
def LcdLayer.ofNode (d : Document) (node : Node) : Except Defect LcdLayer := do
  let fields ← d.fields ["data_dir", "product_name", "plugins_mask", "ticks", "realtime",
    "lock_tick", "dump_frame", "dump_buffer"] node
  pure {
    dataDirectory := ← d.optionalField fields "data_dir" fieldText
    productName := ← d.optionalField fields "product_name" fieldText
    pluginsMask := ← d.optionalField fields "plugins_mask" fieldMask
    ticks := ← d.optionalField fields "ticks" fieldCount
    realtime := ← d.optionalField fields "realtime" Document.bool
    lockTick := ← d.optionalField fields "lock_tick" fieldCount
    dumpFrame := ← d.optionalField fields "dump_frame" fieldText
    dumpBuffer := ← d.optionalField fields "dump_buffer" fieldText }

/-- The names of the fields of a reading. -/
def sensorFields : List String :=
  ["hostname", "cpu_percent", "memory_percent", "net_rx_rate", "net_tx_rate"]

/-- Fixed readings from a node. -/
def SensorLayer.ofNode (d : Document) (node : Node) : Except Defect SensorLayer := do
  let fields ← d.fields sensorFields node
  pure {
    hostname := ← d.optionalField fields "hostname" fieldText
    cpuPercent := ← d.optionalField fields "cpu_percent" fieldPercent
    memoryPercent := ← d.optionalField fields "memory_percent" fieldPercent
    receiveRate := ← d.optionalField fields "net_rx_rate" fieldText
    transmitRate := ← d.optionalField fields "net_tx_rate" fieldText }

/-- A layer from the text of a configuration file. -/
def Layer.ofYaml (text : String) : Except Defect Layer := do
  let d ← Document.ofString text
  let fields ← d.fields ["log_level", "lcd", "sensors"] d.root
  pure {
    logLevel := ← d.optionalField fields "log_level" fieldText
    lcd := ← d.optionalField fields "lcd" LcdLayer.ofNode
    sensors := ← d.optionalField fields "sensors" SensorLayer.ofNode }

/-- A reading from a text. Missing fields are those of the standard reading. -/
def Snapshot.ofYaml (text : String) : Except Defect Snapshot := do
  let d ← Document.ofString text
  let fields ← d.fields sensorFields d.root
  let s := Snapshot.standard
  pure {
    hostname := ← d.fieldOr fields "hostname" fieldText s.hostname
    cpuPercent := ← d.fieldOr fields "cpu_percent" fieldPercent s.cpuPercent
    memoryPercent := ← d.fieldOr fields "memory_percent" fieldPercent s.memoryPercent
    receiveRate := ← d.fieldOr fields "net_rx_rate" fieldText s.receiveRate
    transmitRate := ← d.fieldOr fields "net_tx_rate" fieldText s.transmitRate }

/-- A setting in writing. -/
def written {α : Type} (f : α → Yaml.Atom) (value : Option α) : Yaml.Atom :=
  (value.map f).getD .null

/-- Settings of the panel in writing. -/
def LcdLayer.fields (l : LcdLayer) : List (String × Yaml.Atom) :=
  [("data_dir", written .text l.dataDirectory),
    ("product_name", written .text l.productName),
    ("plugins_mask", written (fun mask => .number mask.toNat) l.pluginsMask),
    ("ticks", written .number l.ticks),
    ("realtime", written .flag l.realtime),
    ("lock_tick", written .number l.lockTick),
    ("dump_frame", written .text l.dumpFrame),
    ("dump_buffer", written .text l.dumpBuffer)]

/-- Fixed readings in writing. -/
def SensorLayer.fields (l : SensorLayer) : List (String × Yaml.Atom) :=
  [("hostname", written .text l.hostname),
    ("cpu_percent", written (fun percent => .number percent.toNat) l.cpuPercent),
    ("memory_percent", written (fun percent => .number percent.toNat) l.memoryPercent),
    ("net_rx_rate", written .text l.receiveRate),
    ("net_tx_rate", written .text l.transmitRate)]

/-- A part of a layer in writing. -/
def writtenPart (fields : Option (List (String × Yaml.Atom))) : Yaml.Field :=
  (fields.map Yaml.Field.record).getD (.atom .null)

/-- A layer as the text of a configuration file. -/
def Layer.toYaml (l : Layer) : String :=
  Yaml.writeRecord
    [("log_level", .atom (written .text l.logLevel)),
      ("lcd", writtenPart (l.lcd.map LcdLayer.fields)),
      ("sensors", writtenPart (l.sensors.map SensorLayer.fields))]

end LcdCompositor
