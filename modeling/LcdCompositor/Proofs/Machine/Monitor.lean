import LcdCompositor.Machine.Monitor
import LcdCompositor.Proofs.Machine.Drawing
import LcdCompositor.Proofs.Plugin.Monitor
import LcdCompositor.Proofs.Plugin.ReadOnly

/-!
# When a redraw of the monitor stops the machine

A redraw asks for sheets, measures a text and draws. The fonts are small enough for their cells
to be counted in sixteen bits, and the drawings run on every bitmap, so all that is left is the
sum of the gap and the measured width. Widths stop at the limit of sixteen bits, and the gap
comes on top of that: the machine stops there if and only if the rate that is sent is as wide
as a text can be told to be. The redraw of the monitor itself makes this one check.
-/

namespace LcdCompositor.Machine

section Sheets

variable {spec : FontSpec}

/-- The edges of a cell are words. -/
def EdgesInWords (spec : FontSpec) (cell : Cell) : Prop :=
  (cell.column + 1 ≤ wordLimit ∧ (cell.column + 1) * spec.cellWidth ≤ wordLimit) ∧
    cell.row + 1 ≤ wordLimit ∧ (cell.row + 1) * spec.cellHeight ≤ wordLimit

/-- All numbers that are made of a font to find its cells are words. -/
def WordSized (spec : FontSpec) : Prop :=
  spec.leftShift + spec.extraShift ≤ wordLimit ∧
    ∀ placed ∈ spec.placements, EdgesInWords spec placed.2

instance (spec : FontSpec) (cell : Cell) : Decidable (EdgesInWords spec cell) :=
  inferInstanceAs (Decidable ((_ ∧ _) ∧ _ ∧ _))

instance (spec : FontSpec) : Decidable (WordSized spec) :=
  inferInstanceAs (Decidable (_ ∧ ∀ placed ∈ spec.placements, EdgesInWords spec placed.2))

theorem wordSized_spec (font : Font) : WordSized font.spec := by
  cases font <;> decide +kernel

theorem mul_of_le {a b : Nat} (h : a * b ≤ wordLimit) : mul a b = .ok (a * b) := if_pos h

theorem holds_eq {cell : Cell} (small : EdgesInWords spec cell) (sheet : Size) :
    holds spec sheet cell = .ok (spec.fits sheet cell) := by
  obtain ⟨columns, rows⟩ := small
  rw [holds, FontSpec.fits, add_of_le columns.1, ok_bind, mul_of_le columns.2, ok_bind]
  split
  next outside => rw [decide_eq_false (Nat.not_le_of_gt outside), Bool.false_and, pure_eq_ok]
  next inside =>
    rw [add_of_le rows.1, ok_bind, mul_of_le rows.2, ok_bind,
      decide_eq_true (Nat.le_of_not_lt inside), Bool.true_and, pure_eq_ok]

theorem outsider_eq {cells : List (Char × Cell)}
    (small : ∀ placed ∈ cells, EdgesInWords spec placed.2) (sheet : Size) :
    outsider spec sheet cells = .ok (GlyphSheet.outsider spec sheet cells) := by
  induction cells with
  | nil => rfl
  | cons placed rest ih =>
    obtain ⟨edges, later⟩ := List.forall_mem_cons.mp small
    rw [outsider, holds_eq edges, ok_bind, GlyphSheet.outsider, List.find?_cons]
    cases spec.fits sheet placed.2 with
    | false => rfl
    | true => exact ih later

theorem ofBitmap_eq (small : WordSized spec) (picture : Bitmap) :
    ofBitmap picture spec = .ok (GlyphSheet.ofBitmap picture spec) := by
  rw [ofBitmap, GlyphSheet.ofBitmap]
  split
  next => rw [pure_eq_ok]
  next =>
    by_cases flat : spec.cellHeight = 0
    · rw [if_pos flat, if_pos (.inl flat), pure_eq_ok]
    · simp only [flat, false_or, if_false]
      rw [add_of_le small.1, ok_bind]
      split
      next => rw [pure_eq_ok]
      next =>
        split
        next => rw [pure_eq_ok]
        next =>
          rw [outsider_eq small.2, ok_bind]
          cases GlyphSheet.outsider spec picture.size spec.placements <;> rfl

theorem loadSheet_eq (small : WordSized spec) (files : FileTree) (directory : String) :
    loadSheet files directory spec = .ok (GlyphSheet.load files directory spec) := by
  rw [loadSheet, GlyphSheet.load]
  cases loadBitmap files (FileTree.join directory spec.file) spec.sheet with
  | error fault => rfl
  | ok picture => exact ofBitmap_eq small picture

/-- The fonts have few cells and small ones, so a sheet is had without a check that fails. -/
theorem sheet_eq (s : Studio) (font : Font) : sheet s font = .ok (s.sheet font) := by
  rw [sheet, Studio.sheet]
  cases s.fonts.sheets font with
  | some sheet => rfl
  | none =>
    dsimp only
    rw [loadSheet_eq (wordSized_spec font), ok_bind]
    cases GlyphSheet.load s.files s.fonts.directory font.spec <;> rfl

end Sheets

section Scenes

variable {scene : Scene} {s : Studio}

theorem made_of_sheet {font : Font} {g : GlyphSheet} {after : Studio}
    (genuine : GenuineSheets s.answers) (asked : s.sheet font = (.ok g, after)) :
    ∃ picture, GlyphSheet.ofBitmap picture font.spec = .ok g := by
  apply genuine font g
  rw [Studio.answers, asked]
  rfl

theorem measure_eq (genuine : GenuineSheets s.answers) (font : Font) (text : String) :
    measure s font text = .ok (s.textWidth font text) := by
  rw [measure, Studio.textWidth, sheet_eq, ok_bind]
  rcases asked : s.sheet font with ⟨fault | g, after⟩
  · rfl
  · obtain ⟨picture, made⟩ := made_of_sheet genuine asked
    dsimp only
    rw [textWidth_eq made, ok_bind, pure_eq_ok]

theorem drawOr_eq {f : Bitmap → Machine (Except Fault Bitmap)}
    {plain : Bitmap → Except Fault Bitmap} (runs : ∀ b, f b = .ok (plain b)) (scene : Scene)
    (what : String) : drawOr scene what f = .ok (scene.drawOr what plain) := by
  rw [drawOr, Scene.drawOr]
  cases shown : scene.screen.picture .current with
  | error fault =>
    rw [Screen.draw, shown]
    rfl
  | ok picture =>
    dsimp only
    rw [runs, ok_bind]
    cases drew : plain picture with
    | error fault =>
      rw [Screen.draw_of_error shown drew]
      rfl
    | ok drawn =>
      rw [Screen.draw_of_ok shown drew]
      rfl

theorem bar_eq (scene : Scene) (percent x y : Nat) :
    bar scene percent x y = .ok (scene.bar percent x y) :=
  drawOr_eq (fun b => progressBar_eq b percent x y) scene "progress bar"

theorem line_eq (scene : Scene) (x y size : Nat) :
    line scene x y size = .ok (scene.line x y size) :=
  drawOr_eq (fun b => verticalLine_eq b x y size) scene "vertical line"

theorem write_eq (genuine : GenuineSheets scene.studio.answers) (slot : Slot) (font : Font)
    (s : String) (x y : Int) :
    write scene slot font s x y = .ok (scene.write slot font s x y) := by
  rw [write, Scene.write, sheet_eq, ok_bind]
  rcases asked : scene.studio.sheet font with ⟨fault | g, studio⟩
  · rfl
  · obtain ⟨picture, made⟩ := made_of_sheet genuine asked
    dsimp only
    cases scene.screen.picture slot with
    | error fault => rfl
    | ok old =>
      dsimp only
      rw [text_eq made, ok_bind]
      rcases Drawing.text g old s x y with ⟨drawn, none | fault⟩ <;> rfl

end Scenes

open SystemMonitor

section Redraw

variable {scene : Scene} {reading : Snapshot} {feed : SensorFeed}

theorem load_eq (genuine : GenuineSheets scene.studio.answers) (label : String) (percent : UInt8)
    (row : Nat) :
    load scene label percent row = .ok (SystemMonitor.load scene label percent row) := by
  have labelled := scene.answers_write .current .mono5x8 label labelColumn row
  rw [load, write_eq genuine, ok_bind, bar_eq, ok_bind, write_eq]
  · rfl
  · rwa [Scene.bar, Scene.answers_drawOr, labelled]

theorem answers_load (scene : Scene) (label : String) (percent : UInt8) (row : Nat) :
    (SystemMonitor.load scene label percent row).studio.answers = scene.studio.answers :=
  congrArg Prod.snd (offer_load scene label percent row)

theorem answers_drawLoads (scene : Scene) (reading : Snapshot) :
    (SystemMonitor.drawLoads scene reading).studio.answers = scene.studio.answers :=
  congrArg Prod.snd (offer_drawLoads scene reading)

theorem drawLoads_eq (genuine : GenuineSheets scene.studio.answers) (reading : Snapshot) :
    drawLoads scene reading = .ok (SystemMonitor.drawLoads scene reading) := by
  have cleared : GenuineSheets scene.clear.studio.answers := genuine
  have named : GenuineSheets
      (scene.clear.write .current .mono6x8 reading.hostname (-1) hostnameRow).studio.answers := by
    rwa [Scene.answers_write]
  have loaded : GenuineSheets (SystemMonitor.load (scene.clear.write .current .mono6x8
      reading.hostname (-1) hostnameRow) "CPU" reading.cpuPercent cpuRow).studio.answers := by
    rwa [answers_load]
  rw [drawLoads, write_eq cleared, ok_bind, load_eq named, ok_bind, load_eq loaded, ok_bind,
    line_eq, SystemMonitor.drawLoads]

theorem writeRates_eq (genuine : GenuineSheets scene.studio.answers) (reading : Snapshot)
    (column : Nat) :
    writeRates scene reading column = .ok (SystemMonitor.writeRates scene reading column) := by
  have gap : add separatorColumn.toNat rateGap.toNat = .ok (separatorColumn + rateGap).toNat := rfl
  rw [writeRates, write_eq genuine, ok_bind, gap, ok_bind, write_eq]
  · rfl
  · rwa [Scene.answers_write]

/-- Only the place of the rate that is sent may not be found. -/
theorem drawRates_eq (genuine : GenuineSheets scene.studio.answers) (reading : Snapshot) :
    drawRates scene reading = (transmitColumn (rateWidth scene.studio.answers reading)).map
      (SystemMonitor.writeRates (measured scene reading) reading) := by
  have asked : GenuineSheets (measured scene reading).studio.answers := by
    rwa [measured, Studio.answers_textWidth]
  rw [drawRates, measure_eq genuine, ok_bind]
  dsimp only
  rw [textWidth_eq_rateWidth]
  cases transmitColumn (rateWidth scene.studio.answers reading) with
  | error stop => rfl
  | ok column => exact writeRates_eq asked reading column

/-- The redraw with all its checks: it runs if a place is found for the rate that is sent. -/
theorem refresh_eq (genuine : GenuineSheets scene.studio.answers) (feed : SensorFeed) :
    refresh feed scene =
      (transmitColumn (rateWidth scene.studio.answers feed.sample.1)).map fun column =>
        ⟨feed.sample.2, SystemMonitor.writeRates
          (measured (SystemMonitor.drawLoads scene feed.sample.1) feed.sample.1) feed.sample.1
            column, none⟩ := by
  have loaded : GenuineSheets
      (SystemMonitor.drawLoads scene feed.sample.1).studio.answers := by
    rwa [answers_drawLoads]
  rw [refresh]
  dsimp only
  rw [drawLoads_eq genuine, ok_bind, drawRates_eq loaded, answers_drawLoads]
  cases transmitColumn (rateWidth scene.studio.answers feed.sample.1) <;> rfl

/-- With room for the gap the redraw runs, and the rate ends in front of the line. -/
theorem refresh_of_le (genuine : GenuineSheets scene.studio.answers)
    (room : rateWidth scene.studio.answers feed.sample.1 ≤ 65532) :
    let loads := measured (SystemMonitor.drawLoads scene feed.sample.1) feed.sample.1
    refresh feed scene = .ok (SystemMonitor.refresh feed scene) ∧
      (SystemMonitor.refresh feed scene).interruption = none ∧
      (SystemMonitor.refresh feed scene).scene = SystemMonitor.writeRates loads feed.sample.1
        (77 - rateWidth scene.studio.answers feed.sample.1) := by
  intro loads
  have same := answers_drawLoads scene feed.sample.1
  rw [← same] at room
  have drawn := drawRates_of_le room
  rw [same] at room drawn
  have redrawn : SystemMonitor.refresh feed scene = ⟨feed.sample.2, SystemMonitor.writeRates loads
      feed.sample.1 (77 - rateWidth scene.studio.answers feed.sample.1), none⟩ := by
    rw [SystemMonitor.refresh_eq, drawn, Option.map_none]
  rw [redrawn, refresh_eq genuine, transmitColumn_of_le room, Except.map]
  dsimp only
  exact ⟨rfl, rfl, rfl⟩

/-- Without it both redraws stop, and neither rate is written. -/
theorem refresh_of_gt (genuine : GenuineSheets scene.studio.answers)
    (wide : 65532 < rateWidth scene.studio.answers feed.sample.1) :
    let loads := measured (SystemMonitor.drawLoads scene feed.sample.1) feed.sample.1
    refresh feed scene = .error (.overflow 65538) ∧
      (SystemMonitor.refresh feed scene).interruption = some (.stop (.overflow 65538)) ∧
      (SystemMonitor.refresh feed scene).scene = loads := by
  intro loads
  have limit : rateWidth scene.studio.answers feed.sample.1 = 65535 := by
    have width := rateWidth_eq genuine feed.sample.1
    split at width <;> omega
  have same := answers_drawLoads scene feed.sample.1
  rw [← same] at wide
  have drawn := drawRates_of_gt wide
  rw [same] at wide drawn
  rw [limit] at drawn
  have redrawn : SystemMonitor.refresh feed scene =
      ⟨feed.sample.2, loads, some (.stop (.overflow 65538))⟩ := by
    rw [SystemMonitor.refresh_eq, drawn, Option.map_some]
  rw [redrawn, refresh_eq genuine, transmitColumn_of_gt wide, limit, Except.map]
  exact ⟨rfl, rfl, rfl⟩

end Redraw

/-- Whatever is read, and whether the sheets are kept or still in their files, a redraw runs to
its end without leaving sixteen bits as long as the rate that is sent has at most 13106
characters or its font cannot be had. The rate then starts at column 77 less its width, and at
the left edge if it is wider. From 13107 characters on its width is the limit and the sum with
the gap is beyond it: the redraw stops there, with the loads and the line drawn and neither of
the rates. No other step stops the machine. -/
theorem refresh_runs_unless_long {scene : Scene} (genuine : scene.studio.fonts.Genuine)
    (feed : SensorFeed) :
    let reading := feed.sample.1
    let width := rateWidth scene.studio.answers reading
    let loads := measured (SystemMonitor.drawLoads scene reading) reading
    (65532 < width ↔
      scene.studio.answers .mono5x8 ≠ none ∧ 13106 < reading.transmitRate.toList.length) ∧
    (width ≤ 65532 →
      refresh feed scene = .ok (SystemMonitor.refresh feed scene) ∧
        (SystemMonitor.refresh feed scene).interruption = none ∧
        (SystemMonitor.refresh feed scene).scene =
          SystemMonitor.writeRates loads reading (77 - width)) ∧
    (65532 < width →
      refresh feed scene = .error (.overflow 65538) ∧
        (SystemMonitor.refresh feed scene).interruption = some (.stop (.overflow 65538)) ∧
        (SystemMonitor.refresh feed scene).scene = loads) := by
  have sheets := Studio.genuine_answers genuine
  exact ⟨rateWidth_gt_iff sheets feed.sample.1, refresh_of_le sheets, refresh_of_gt sheets⟩

/-- A monitor that has been set up, with a dark sheet for the rates. -/
def darkScene : Scene := (setUp ⟨"", ""⟩ ⟨Screen.new identity .normal, darkStudio⟩).1

/-- The longest rate for which the redraw runs starts at the left edge. -/
theorem refresh_runs_longest :
    let feed := letters 13106
    darkScene.studio.fonts.Genuine ∧
      refresh feed darkScene = .ok (SystemMonitor.refresh feed darkScene) ∧
      (SystemMonitor.refresh feed darkScene).interruption = none ∧
      (SystemMonitor.refresh feed darkScene).scene = SystemMonitor.writeRates
        (measured (SystemMonitor.drawLoads darkScene feed.sample.1) feed.sample.1)
          feed.sample.1 0 := by
  intro feed
  have genuine : darkScene.studio.fonts.Genuine := genuine_darkStudio
  obtain ⟨-, runs, -⟩ := refresh_runs_unless_long genuine feed
  have width : rateWidth darkScene.studio.answers feed.sample.1 = 65530 := rateWidth_letters 13106
  rw [width] at runs
  exact ⟨genuine, runs (by decide)⟩

/-- One letter more, and the redraw stops. -/
theorem refresh_overflows :
    let feed := letters 13107
    darkScene.studio.fonts.Genuine ∧
      rateWidth darkScene.studio.answers feed.sample.1 = 65535 ∧
      refresh feed darkScene = .error (.overflow 65538) ∧
      (SystemMonitor.refresh feed darkScene).interruption = some (.stop (.overflow 65538)) := by
  intro feed
  have genuine : darkScene.studio.fonts.Genuine := genuine_darkStudio
  have width : rateWidth darkScene.studio.answers feed.sample.1 = 65535 := rateWidth_letters 13107
  have wide : 65532 < rateWidth darkScene.studio.answers feed.sample.1 := by
    rw [width]
    decide
  obtain ⟨checked, stopped, -⟩ := refresh_of_gt (Studio.genuine_answers genuine) wide
  exact ⟨genuine, width, checked, stopped⟩

end LcdCompositor.Machine
