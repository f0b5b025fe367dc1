import LcdCompositor.Machine
import LcdCompositor.Plugin.SystemMonitor

/-!
# A redraw of the monitor with machine words

What the monitor does on a tick, down to the primitives that `Machine` has: sheets are checked
when they are first asked for, texts are measured and written, bars and the line are drawn. The
place of the rate that is sent is found in sixteen bits.
-/

namespace LcdCompositor.Machine

section Sheets

/-- Whether a cell lies inside a sheet. Its row does not matter if its column is outside. -/
def holds (spec : FontSpec) (sheet : Size) (cell : Cell) : Machine Bool := do
  let right ← mul (← add cell.column 1) spec.cellWidth
  if sheet.width.toNat < right then pure false
  else
    let bottom ← mul (← add cell.row 1) spec.cellHeight
    pure (bottom ≤ sheet.height.toNat)

/-- The first character whose cell is not inside the sheet. -/
def outsider (spec : FontSpec) (sheet : Size) :
    List (Char × Cell) → Machine (Option (Char × Cell))
  | [] => pure none
  | placed :: rest => do
    if ← holds spec sheet placed.2 then outsider spec sheet rest else pure (some placed)

/-- Builds a sheet from its picture. -/
def ofBitmap (picture : Bitmap) (spec : FontSpec) : Machine (Except Fault GlyphSheet) :=
  let geometry : Fault := .format
    (.cellGeometry spec.cellWidth spec.cellHeight spec.leftShift spec.extraShift)
  if !spec.widthSupported then pure (.error (.format (.cellWidth spec.cellWidth)))
  else if spec.cellHeight = 0 then pure (.error geometry)
  else do
    let shifts ← add spec.leftShift spec.extraShift
    if spec.cellWidth ≤ shifts then pure (.error geometry)
    else if picture.size ≠ spec.sheet then
      pure (.error (.format (.sheetSize picture.size spec.sheet)))
    else
      match ← outsider spec picture.size spec.placements with
      | some (c, cell) =>
        pure (.error (.format (.cellOutsideSheet cell.column cell.row c picture.size)))
      | none => pure (.ok ⟨spec, picture, spec.placements⟩)

/-- Reads the sheet of a font from a directory. -/
def loadSheet (files : FileTree) (directory : String) (spec : FontSpec) :
    Machine (Except Fault GlyphSheet) :=
  match loadBitmap files (FileTree.join directory spec.file) spec.sheet with
  | .error fault => pure (.error fault)
  | .ok picture => ofBitmap picture spec

/-- The sheet of a font, read now unless it is kept. -/
def sheet (s : Studio) (font : Font) : Machine (Except Fault GlyphSheet × Studio) :=
  match s.fonts.sheets font with
  | some sheet => pure (.ok sheet, s)
  | none => do
    match ← loadSheet s.files s.fonts.directory font.spec with
    | .error fault =>
      pure (.error fault, s.report .error (s!"font {font.name} unusable: " ++ fault.message))
    | .ok sheet =>
      pure (.ok sheet, { s with fonts := s.fonts.insert font sheet }.report .info
        (s!"font {font.name} loaded from " ++ font.spec.file))

/-- The width of a text, and zero if its font cannot be had. -/
def measure (s : Studio) (font : Font) (text : String) : Machine (Nat × Studio) := do
  match ← sheet s font with
  | (.ok sheet, s) => return (← textWidth sheet text, s)
  | (.error _, s) => pure (0, s)

end Sheets

section Scenes

variable (scene : Scene)

/-- Draws on the frame on show or reports what was skipped. -/
def drawOr (what : String) (f : Bitmap → Machine (Except Fault Bitmap)) : Machine Scene :=
  match scene.screen.picture .current with
  | .error fault => pure (scene.warn (what ++ " skipped") fault)
  | .ok picture => do
    match ← f picture with
    | .ok drawn => pure { scene with screen := scene.screen.setPicture .current drawn }
    | .error fault => pure (scene.warn (what ++ " skipped") fault)

def bar (percent x y : Nat) : Machine Scene :=
  drawOr scene "progress bar" fun b => progressBar b percent x y

def line (x y size : Nat) : Machine Scene :=
  drawOr scene "vertical line" fun b => verticalLine b x y size

/-- Writes a line of text into a slot. -/
def write (slot : Slot) (font : Font) (s : String) (x y : Int) : Machine Scene := do
  match ← sheet scene.studio font with
  | (.error fault, studio) => pure ({ scene with studio }.warnText s fault)
  | (.ok g, studio) =>
    let scene := { scene with studio }
    match scene.screen.picture slot with
    | .error fault => pure (scene.warnText s fault)
    | .ok picture =>
      match ← text g picture s x y with
      | (drawn, none) => pure { scene with screen := scene.screen.setPicture slot drawn }
      | (drawn, some fault) =>
        pure ({ scene with screen := scene.screen.setPicture slot drawn }.warnText s fault)

end Scenes

section Readings

open SystemMonitor

/-- Label, bar and percentage of one load. -/
def load (scene : Scene) (label : String) (percent : UInt8) (row : Nat) : Machine Scene := do
  let scene ← write scene .current .mono5x8 label labelColumn row
  let scene ← bar scene percent.toNat barColumn row
  write scene .current .mono5x8 (percentText percent) percentColumn row

/-- Host name, loads and the line, over nothing that was there before. -/
def drawLoads (scene : Scene) (reading : Snapshot) : Machine Scene := do
  let scene ← write scene.clear .current .mono6x8 reading.hostname (-1) hostnameRow
  let scene ← load scene "CPU" reading.cpuPercent cpuRow
  let scene ← load scene "MEM" reading.memoryPercent memoryRow
  line scene separatorColumn.toNat separatorRow separatorRows

/-- The rate that is sent from a column on, and the one that is received behind the line. -/
def writeRates (scene : Scene) (reading : Snapshot) (column : Nat) : Machine Scene := do
  let scene ← write scene .current .mono5x8 reading.transmitRate column rateRow
  let behind ← add separatorColumn.toNat rateGap.toNat
  write scene .current .mono5x8 reading.receiveRate behind rateRow

/-- Both rates. -/
def drawRates (scene : Scene) (reading : Snapshot) : Machine Scene := do
  let (width, studio) ← measure scene.studio .mono5x8 reading.transmitRate
  writeRates { scene with studio } reading (← transmitColumn width)

/-- Takes a reading and draws it on the frame on show. The machine stops where a check does. -/
def refresh (feed : SensorFeed) (scene : Scene) : Machine (Refreshed SensorFeed) := do
  let (reading, feed) := feed.sample
  let scene ← drawRates (← drawLoads scene reading) reading
  return ⟨feed, scene, none⟩

end Readings

end LcdCompositor.Machine
