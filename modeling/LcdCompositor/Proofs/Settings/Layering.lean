import LcdCompositor.Formats
import LcdCompositor.Netpbm
import LcdCompositor.Proofs.Settings.Consulted
import Mathlib.Data.List.Basic

/-!
# Which layer decides

Every setting is decided on its own: by the command line if it makes it, or else by the
file, or else by default. It does not matter which other settings a layer makes, nor
whether it has a part for the panel or for the readings at all. Layers are put one over
the other field by field, in lists that name every field; `atop` says what the lists come
to, and a field of it knows of no other.
-/

namespace LcdCompositor

attribute [ext] LcdLayer SensorLayer

/-- What the line sets of the panel. -/
def Options.panelLayer (o : Options) : LcdLayer where
  dataDirectory := o.dataDirectory
  productName := o.productName
  pluginsMask := o.pluginsMask
  ticks := o.ticks
  realtime := o.realtime
  lockTick := o.lockTick
  dumpFrame := o.dumpFrame
  dumpBuffer := o.dumpBuffer

/-- What the line sets of the readings. -/
def Options.sensorLayer (o : Options) : SensorLayer :=
  { SensorLayer.empty with hostname := o.hostname }

/-- The settings where every field is decided for itself, with the defaults. -/
def Settings.decidedBy (decided : {α : Type} → (LcdLayer → Option α) → Option α) : Settings where
  dataDirectory := (decided (·.dataDirectory)).getD "data"
  productName := (decided (·.productName)).getD "KeyMonS"
  pluginsMask := (decided (·.pluginsMask)).getD 0xffffffffffffffff
  ticks := (decided (·.ticks)).getD 60
  realtime := (decided (·.realtime)).getD false
  lockTick := decided (·.lockTick)
  dumpFrame := decided (·.dumpFrame)
  dumpBuffer := decided (·.dumpBuffer)

/-- The readings where every field is decided for itself, with the defaults. The name
that the host has given itself counts for as little as a default, and not at all if it
is empty. -/
def Snapshot.decidedBy (decided : {α : Type} → (SensorLayer → Option α) → Option α)
    (hostname : Option String) : Snapshot where
  hostname := (decided (·.hostname)).getD
    ((hostname.filter fun name => !name.isEmpty).getD "localhost")
  cpuPercent := (decided (·.cpuPercent)).getD 0
  memoryPercent := (decided (·.memoryPercent)).getD 0
  receiveRate := (decided (·.receiveRate)).getD "0B/s"
  transmitRate := (decided (·.transmitRate)).getD "0B/s"

variable {α β γ : Type}

section Given

/-- What a field comes to where some field may be set. -/
theorem apply_given (f : β → γ) (value : Option α) (set : β → Option α → β) (b : β) :
    f (given value set b) = if value.isSome then f (set b value) else f b := apply_ite ..

theorem ite_isSome (upper lower : Option α) :
    (if upper.isSome then upper else lower) = upper.or lower := by
  cases upper <;> rfl

end Given

namespace LcdLayer

/-- Every field of the upper layer that is set, and every other one of the lower layer. -/
def atop (upper lower : LcdLayer) : LcdLayer where
  dataDirectory := upper.dataDirectory.or lower.dataDirectory
  productName := upper.productName.or lower.productName
  pluginsMask := upper.pluginsMask.or lower.pluginsMask
  ticks := upper.ticks.or lower.ticks
  realtime := upper.realtime.or lower.realtime
  lockTick := upper.lockTick.or lower.lockTick
  dumpFrame := upper.dumpFrame.or lower.dumpFrame
  dumpBuffer := upper.dumpBuffer.or lower.dumpBuffer

/-- A field that is layered for itself. -/
structure IsField (field : LcdLayer → Option α) : Prop where
  atop : ∀ upper lower, field (upper.atop lower) = (field upper).or (field lower)
  empty : field LcdLayer.empty = none

/-- No field is left out of the list, and none is put in the place of another. -/
theorem merge_eq (lower upper : LcdLayer) : lower.merge upper = upper.atop lower := by
  rw [LcdLayer.ext_iff]
  simp only [merge, LcdLayer.atop, apply_given dataDirectory, apply_given productName,
    apply_given pluginsMask, apply_given ticks, apply_given realtime, apply_given lockTick,
    apply_given dumpFrame, apply_given dumpBuffer, ite_self, ite_isSome, and_self]

end LcdLayer

namespace SensorLayer

/-- Every field of the upper layer that is set, and every other one of the lower layer. -/
def atop (upper lower : SensorLayer) : SensorLayer where
  hostname := upper.hostname.or lower.hostname
  cpuPercent := upper.cpuPercent.or lower.cpuPercent
  memoryPercent := upper.memoryPercent.or lower.memoryPercent
  receiveRate := upper.receiveRate.or lower.receiveRate
  transmitRate := upper.transmitRate.or lower.transmitRate

/-- A field that is layered for itself. -/
structure IsField (field : SensorLayer → Option α) : Prop where
  atop : ∀ upper lower, field (upper.atop lower) = (field upper).or (field lower)
  empty : field SensorLayer.empty = none

theorem merge_eq (lower upper : SensorLayer) : lower.merge upper = upper.atop lower := by
  rw [SensorLayer.ext_iff]
  simp only [merge, SensorLayer.atop, apply_given hostname, apply_given cpuPercent,
    apply_given memoryPercent, apply_given receiveRate, apply_given transmitRate, ite_self,
    ite_isSome, and_self]

end SensorLayer

namespace Options

variable (o : Options)

/-- The line is put over the settings of the panel as another layer would be. -/
theorem overrideLcd_eq (lcd : LcdLayer) : o.overrideLcd lcd = o.panelLayer.atop lcd :=
  LcdLayer.merge_eq lcd o.panelLayer

/-- A line that does not count as setting anything of the panel sets nothing of it. -/
theorem panelLayer_of_anyLcd (nothing : o.anyLcd = false) : o.panelLayer = LcdLayer.empty := by
  simp only [anyLcd, Bool.or_eq_false_iff, Option.isSome_eq_false_iff,
    Option.isNone_iff_eq_none, and_assoc] at nothing
  rw [LcdLayer.ext_iff]
  exact nothing

variable (layer : Layer)

/-- The debug flag stands above every level of the log. -/
theorem logLevel_override : (o.override layer).logLevel =
    (if o.debug then some "debug" else o.logLevel).or layer.logLevel := by
  have set : (o.override layer).logLevel =
      if o.debug then some "debug" else o.logLevel.or layer.logLevel := by
    rw [override]
    cases o.hostname <;>
      simp only [apply_given Layer.logLevel, apply_ite Layer.logLevel, ite_self, ite_isSome]
  rw [set]
  cases o.debug <;> rfl

theorem lcd_override : (o.override layer).lcd =
    (if o.anyLcd && layer.lcd.isNone then some LcdLayer.empty else layer.lcd).map
      o.overrideLcd := by
  rw [override]
  cases o.hostname <;>
    simp only [apply_given Layer.lcd, apply_ite Layer.lcd, ite_self]

theorem sensors_override : (o.override layer).sensors =
    match o.hostname with
    | none => layer.sensors
    | some name =>
      some { layer.sensors.getD SensorLayer.empty with hostname := some name } := by
  rw [override]
  cases o.hostname <;> simp only [apply_given Layer.sensors, apply_ite Layer.sensors, ite_self]

end Options

namespace Layer

/-- A setting of the panel, if the layer makes it. -/
def panel (l : Layer) (field : LcdLayer → Option α) : Option α := l.lcd.bind field

/-- A reading, if the layer makes it. -/
def reading (l : Layer) (field : SensorLayer → Option α) : Option α := l.sensors.bind field

section Effective

variable (l : Layer)

theorem settings_eq : l.settings = Settings.decidedBy l.panel := by
  obtain ⟨logLevel, lcd, sensors⟩ := l
  cases lcd <;> rfl

theorem snapshot_eq (hostname : Option String) :
    l.snapshot hostname = Snapshot.decidedBy l.reading hostname := by
  have host : Snapshot.ofHost hostname = { Snapshot.standard with
      hostname := (hostname.filter fun name => !name.isEmpty).getD "localhost" } := by
    cases hostname with
    | none => rfl
    | some name =>
      rw [Snapshot.ofHost, Option.filter_some]
      cases name.isEmpty <;> rfl
  obtain ⟨logLevel, lcd, sensors⟩ := l
  rw [snapshot, host]
  cases sensors <;> rfl

end Effective

section Layered

variable (o : Options) (layer file lower upper : Layer)

/-- In two parts that are put one over the other, each of which may be missing, a field
that is layered for itself is decided by the upper one if that sets it. -/
theorem bind_mergePart {join : α → α → α} {field : α → Option β}
    (layered : ∀ l u, field (join l u) = (field u).or (field l)) (lower upper : Option α) :
    (mergePart join lower upper).bind field = (upper.bind field).or (lower.bind field) := by
  cases upper with
  | none => cases lower <;> rfl
  | some u =>
    cases lower with
    | none => exact Option.or_none.symm
    | some l => exact layered l u

theorem logLevel_merge : (lower.merge upper).logLevel = upper.logLevel.or lower.logLevel := by
  rw [merge]
  dsimp only
  rw [apply_given Layer.logLevel, ite_isSome]

variable {field : LcdLayer → Option α}

theorem panel_merge (isField : LcdLayer.IsField field) :
    (lower.merge upper).panel field = (upper.panel field).or (lower.panel field) := by
  have parts : (lower.merge upper).lcd = mergePart LcdLayer.merge lower.lcd upper.lcd := by
    rw [merge]
    dsimp only
    rw [apply_given Layer.lcd, ite_self]
  rw [panel, parts]
  exact bind_mergePart (fun l u => by rw [LcdLayer.merge_eq, isField.atop]) lower.lcd upper.lcd

theorem panel_override (isField : LcdLayer.IsField field) :
    (o.override layer).panel field = (field o.panelLayer).or (layer.panel field) := by
  rw [panel, o.lcd_override, panel]
  cases layer.lcd with
  | some lcd =>
    rw [Option.isNone_some, Bool.and_false, if_neg Bool.false_ne_true, Option.map_some,
      Option.bind_some, o.overrideLcd_eq, isField.atop, Option.bind_some]
  | none =>
    -- Settings of the panel come with the line exactly if it sets any.
    cases any : o.anyLcd with
    | true =>
      rw [Option.isNone_none, Bool.and_true, if_pos rfl, Option.map_some, Option.bind_some,
        o.overrideLcd_eq, isField.atop, isField.empty, Option.bind_none]
    | false =>
      rw [o.panelLayer_of_anyLcd any, isField.empty]
      rfl

theorem panel_layered (isField : LcdLayer.IsField field) :
    (o.layered file).panel field = (field o.panelLayer).or (file.panel field) := by
  rw [Options.layered, panel_override _ _ isField, panel_merge _ _ isField]
  exact congrArg _ Option.or_none

theorem settings_layered : (o.layered file).settings =
    Settings.decidedBy fun field => (field o.panelLayer).or (file.panel field) := by
  rw [settings_eq, Settings.decidedBy]
  repeat rw [panel_layered _ _ ⟨fun _ _ => rfl, rfl⟩]
  rfl

variable {part : SensorLayer → Option α}

theorem reading_merge (isField : SensorLayer.IsField part) :
    (lower.merge upper).reading part = (upper.reading part).or (lower.reading part) := by
  have parts : (lower.merge upper).sensors =
      mergePart SensorLayer.merge lower.sensors upper.sensors := by
    rw [merge]
    dsimp only
    rw [apply_given Layer.sensors, ite_self]
  rw [reading, parts]
  exact bind_mergePart (fun l u => by rw [SensorLayer.merge_eq, isField.atop])
    lower.sensors upper.sensors

theorem reading_override (isField : SensorLayer.IsField part) :
    (o.override layer).reading part = (part o.sensorLayer).or (layer.reading part) := by
  rw [reading, o.sensors_override, reading, Options.sensorLayer]
  cases o.hostname with
  | none =>
    have nothing : part { SensorLayer.empty with hostname := none } = none := isField.empty
    rw [nothing, Option.none_or]
  | some name =>
    have joined (l : SensorLayer) : { l with hostname := some name } =
        SensorLayer.atop { SensorLayer.empty with hostname := some name } l := rfl
    cases layer.sensors with
    | none =>
      rw [Option.getD_none, Option.bind_some, Option.bind_none, Option.or_none]
    | some sensors =>
      rw [Option.getD_some, Option.bind_some, Option.bind_some, joined, isField.atop]

theorem reading_layered (isField : SensorLayer.IsField part) :
    (o.layered file).reading part = (part o.sensorLayer).or (file.reading part) := by
  rw [Options.layered, reading_override _ _ isField, reading_merge _ _ isField]
  exact congrArg _ Option.or_none

theorem snapshot_layered (hostname : Option String) :
    (o.layered file).snapshot hostname = Snapshot.decidedBy
      (fun field => (field o.sensorLayer).or (file.reading field)) hostname := by
  rw [snapshot_eq, Snapshot.decidedBy]
  repeat rw [reading_layered _ _ ⟨fun _ _ => rfl, rfl⟩]
  rfl

theorem logFilter_layered : (o.layered file).logFilter =
    ((if o.debug then some "debug" else o.logLevel).or file.logLevel).getD "info" := by
  have nothing : Layer.empty.logLevel = none := rfl
  rw [logFilter, Options.layered, o.logLevel_override, logLevel_merge, nothing, Option.or_none,
    defaultLogLevel]

end Layered

/-- Whatever reads the text of a configuration file, a run reads the file that the command line
names, or else the first that is found in the usual places, or none. A file that is named and
not there stops the run. What other files hold changes nothing, nor does anything behind the
place where one is found. In a run that goes on every setting has the value of the command line
if that gives one, or else the value of the file, or else its default. -/
theorem load_layers (reader : LayerReader) (o : Options) (search : Bool) (e : Environment) :
    (∀ path, o.config = some path → e.files.contains path = false →
      Layer.load reader o search e = .error (.invalid (.configNotFound path))) ∧
    ((∀ path, o.config = some path → e.files.contains path = true) →
      ∃! source, e.Consults o search source) ∧
    (∀ source, e.Consults o search source → ∀ f : Environment, f.Consults o search source →
      (∀ path ∈ source, f.files.read path = e.files.read path) →
      Layer.load reader o search f = Layer.load reader o search e) ∧
    (∀ path before after, o.config = none → e.candidates = before ++ path :: after →
      e.files.contains path = true → ∀ f : Environment, f.home = e.home →
      (∀ p ∈ before ++ [path], f.files.read p = e.files.read p) →
      Layer.load reader o search f = Layer.load reader o search e) ∧
    ∀ layer, Layer.load reader o search e = .ok layer → ∃ file, e.Supplies reader o search file ∧
      layer.settings =
        Settings.decidedBy (fun field => (field o.panelLayer).or (file.panel field)) ∧
      layer.logFilter =
        ((if o.debug then some "debug" else o.logLevel).or file.logLevel).getD "info" ∧
      layer.snapshot e.hostname =
        Snapshot.decidedBy (fun field => (field o.sensorLayer).or (file.reading field))
          e.hostname := by
  refine ⟨fun path => load_of_missing, ?chosen, ?others, ?behind, ?values⟩
  case chosen =>
    intro there
    rcases e.consults_or_missing o search with ⟨source, consults⟩ | ⟨path, given, missing⟩
    · exact ⟨source, consults, fun other consulted => consulted.unique consults⟩
    · cases (there path given).symm.trans missing
  case others =>
    intro source consults f consulted same
    exact load_congr consults consulted same
  case behind =>
    intro path before after ungiven order there f home same
    exact load_of_there ungiven home order there same
  case values =>
    intro layer loaded
    obtain ⟨file, supplies, -, rfl⟩ := supplies_of_load loaded
    exact ⟨file, supplies, settings_layered o file, logFilter_layered o file,
      snapshot_layered o file e.hostname⟩

/-- A directory with two configuration files. -/
def desk (second : String) : Environment where
  files := ⟨[(["keymons.yaml"], .file (Netpbm.asciiBytes "lcd:\n  ticks: 5\n  product_name: Desk")),
    (["config.yaml"], .file (Netpbm.asciiBytes second))], []⟩
  home := none
  hostname := some "box"

/-- What the first of them sets. -/
def deskFile : Layer :=
  { Layer.empty with
    lcd := some { LcdLayer.empty with ticks := some 5, productName := some "Desk" } }

/-- A command line with one of these settings and the debug flag. -/
def sevenTicks : Options := { Options.empty with ticks := some 7, debug := true }

/-- The command line decides the ticks and the file the name, whatever the second file
holds. A file that is named and not there is not replaced by the first one. -/
theorem load_layers_desk :
    (Layer.load readDocument { sevenTicks with config := some "lost.yaml" } true (desk "") =
      .error (.invalid (.configNotFound "lost.yaml"))) ∧
    (∃! source, (desk "").Consults sevenTicks true source) ∧
    (Layer.load readDocument sevenTicks true (desk "lcd: [") =
        Layer.load readDocument sevenTicks true (desk "") ∧
      Layer.load readDocument sevenTicks true (desk "log_level: off") =
        Layer.load readDocument sevenTicks true (desk "")) ∧
    ∃ layer, Layer.load readDocument sevenTicks true (desk "") = .ok layer ∧
      layer.settings.ticks = 7 ∧ layer.settings.productName = "Desk" ∧
      layer.settings.dataDirectory = "data" ∧ layer.logFilter = "debug" ∧
      (layer.snapshot (desk "").hostname).hostname = "box" := by
  obtain ⟨-, chosen, others, behind, values⟩ := load_layers readDocument sevenTicks true (desk "")
  have there : (desk "").files.contains "keymons.yaml" = true := by decide +kernel
  have consults (second : String)
      (unchanged : (desk second).files.read "keymons.yaml" = (desk "").files.read "keymons.yaml") :
      (desk second).Consults sevenTicks true (some "keymons.yaml") :=
    .found rfl rfl (List.nil_append _).symm nofun
      ((Environment.contains_congr unchanged).trans there)
  have read : Layer.read readDocument (desk "").files "keymons.yaml" = .ok deskFile := by
    decide +kernel
  have loaded : Layer.load readDocument sevenTicks true (desk "") =
      .ok (sevenTicks.layered deskFile) := by decide +kernel
  obtain ⟨file, supplies, settings, filter, snapshot⟩ := values _ loaded
  obtain rfl : file = deskFile := supplies.unique ⟨_, consults "" rfl, read⟩
  refine ⟨?lost, chosen nofun, ⟨?broken, ?silent⟩, _, loaded, ?_⟩
  case lost =>
    have first := (load_layers readDocument { sevenTicks with config := some "lost.yaml" } true
      (desk "")).1
    exact first _ rfl (by decide +kernel)
  case broken =>
    have unchanged : (desk "lcd: [").files.read "keymons.yaml" =
        (desk "").files.read "keymons.yaml" := by decide +kernel
    refine others _ (consults "" rfl) _ (consults "lcd: [" unchanged) ?_
    rintro path ⟨⟩
    exact unchanged
  case silent =>
    refine behind "keymons.yaml" [] ["config.yaml"] rfl rfl there _ rfl ?_
    intro path member
    obtain rfl := List.mem_singleton.mp member
    decide +kernel
  rw [settings, filter, snapshot]
  exact ⟨rfl, rfl, rfl, rfl, rfl⟩

end Layer

end LcdCompositor
