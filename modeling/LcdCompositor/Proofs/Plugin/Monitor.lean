import LcdCompositor.Plugin.SystemMonitor
import LcdCompositor.Proofs.Drawing.Pitch
import LcdCompositor.Proofs.Font.Genuine
import LcdCompositor.Proofs.Machine.Word

/-!
# What the system monitor shows

A redraw of the monitor darkens the frame on show and then draws on it, in the order of
`portrait`. Each drawing may be skipped or cut short, but that is settled by the reading and
the fonts, and so is whether the machine finds a place for the rates. Nothing of the frame as
it was comes through the darkening, so the monitor shows the portrait of its reading, in
whatever state it was.
-/

namespace LcdCompositor.SystemMonitor

/-- Label, bar and percentage of one load on a bitmap. -/
def loadPortrait (fonts : Font → Option GlyphSheet) (b : Bitmap) (label : String)
    (percent : UInt8) (row : Nat) : Bitmap :=
  let b := Drawing.inscribe (fonts .mono5x8) b label labelColumn row
  let b := Drawing.attempt b fun b => Drawing.progressBar b percent.toNat barColumn row
  Drawing.inscribe (fonts .mono5x8) b (percentText percent) percentColumn row

/-- The frame for a reading in the given fonts, but for the rates. -/
def loadsPortrait (fonts : Font → Option GlyphSheet) (reading : Snapshot) : Bitmap :=
  let b := Drawing.inscribe (fonts .mono6x8) Bitmap.blankFrame reading.hostname (-1) hostnameRow
  let b := loadPortrait fonts b "CPU" reading.cpuPercent cpuRow
  let b := loadPortrait fonts b "MEM" reading.memoryPercent memoryRow
  Drawing.attempt b fun b => Drawing.verticalLine b separatorColumn.toNat separatorRow separatorRows

/-- How wide the transmit rate is taken to be. -/
def rateWidth (fonts : Font → Option GlyphSheet) (reading : Snapshot) : Nat :=
  ((fonts .mono5x8).map (·.textWidth reading.transmitRate)).getD 0

/-- Where the machine stops in a redraw, if it does: the sum of gap and width is not a word. -/
def rateStop (fonts : Font → Option GlyphSheet) (reading : Snapshot) : Option Stop :=
  if rateWidth fonts reading ≤ 65532 then none
  else some (.overflow (3 + rateWidth fonts reading))

/-- Both network rates on a bitmap, or neither where the machine stops. -/
def ratesPortrait (fonts : Font → Option GlyphSheet) (b : Bitmap) (reading : Snapshot) : Bitmap :=
  match rateStop fonts reading with
  | some _ => b
  | none =>
    let b := Drawing.inscribe (fonts .mono5x8) b reading.transmitRate
      (77 - rateWidth fonts reading : Nat) rateRow
    Drawing.inscribe (fonts .mono5x8) b reading.receiveRate
      (separatorColumn + rateGap).toNat rateRow

/-- The frame for a reading in the given fonts. -/
def portrait (fonts : Font → Option GlyphSheet) (reading : Snapshot) : Bitmap :=
  ratesPortrait fonts (loadsPortrait fonts reading) reading

variable {scene : Scene} {fonts : Font → Option GlyphSheet} {b : Bitmap} {reading : Snapshot}
  {width : Nat}

section Width

theorem transmitColumn_of_le (room : width ≤ 65532) : transmitColumn width = .ok (77 - width) := by
  have gap : rateGap.toNat = 3 := rfl
  have line : separatorColumn.toNat = 80 := rfl
  rw [transmitColumn, gap, line, Machine.add_of_le (by rw [Machine.wordLimit]; omega),
    Machine.ok_bind, Machine.pure_eq_ok, Nat.sub_add_eq]

theorem transmitColumn_of_gt (wide : 65532 < width) :
    transmitColumn width = .error (.overflow (3 + width)) := by
  have gap : rateGap.toNat = 3 := rfl
  rw [transmitColumn, gap, Machine.add_of_gt (by rw [Machine.wordLimit]; omega)]
  rfl

theorem rateStop_of_le (room : rateWidth fonts reading ≤ 65532) : rateStop fonts reading = none :=
  if_pos room

theorem rateStop_of_gt (wide : 65532 < rateWidth fonts reading) :
    rateStop fonts reading = some (.overflow (3 + rateWidth fonts reading)) :=
  if_neg (Nat.not_le_of_gt wide)

/-- The font of the rates gives all characters the same width. -/
theorem rateWidth_of_made {g : GlyphSheet} {picture : Bitmap}
    (made : GlyphSheet.ofBitmap picture Font.mono5x8.spec = .ok g)
    (found : fonts .mono5x8 = some g) (reading : Snapshot) :
    rateWidth fonts reading = min (5 * reading.transmitRate.toList.length) 65535 := by
  have even := (GlyphSheet.mono5x8_geometry made).2.2
  have width := GlyphSheet.textWidth_of_pitch even reading.transmitRate.toList
  rw [String.ofList_toList, GlyphSheet.widthLimit] at width
  rw [rateWidth, found, Option.map_some, Option.getD_some, width]

theorem rateWidth_eq (genuine : GenuineSheets fonts) (reading : Snapshot) :
    rateWidth fonts reading =
      if fonts .mono5x8 = none then 0 else min (5 * reading.transmitRate.toList.length) 65535 := by
  cases answered : fonts .mono5x8 with
  | none =>
    rw [rateWidth, answered]
    rfl
  | some g =>
    obtain ⟨picture, made⟩ := genuine .mono5x8 g answered
    rw [if_neg (Option.some_ne_none g), rateWidth_of_made made answered]

/-- From 13107 characters on a rate is as wide as a text can be told to be. -/
theorem rateWidth_gt_iff (genuine : GenuineSheets fonts) (reading : Snapshot) :
    65532 < rateWidth fonts reading ↔
      fonts .mono5x8 ≠ none ∧ 13106 < reading.transmitRate.toList.length := by
  rw [rateWidth_eq genuine]
  split
  next missing => simp [missing]
  next answered =>
    rw [and_iff_right answered]
    omega

theorem rateStop_ne_none_iff (genuine : GenuineSheets fonts) (reading : Snapshot) :
    rateStop fonts reading ≠ none ↔
      fonts .mono5x8 ≠ none ∧ 13106 < reading.transmitRate.toList.length := by
  rw [← rateWidth_gt_iff genuine, rateStop, Ne, ite_eq_left_iff]
  simp

end Width

theorem load_shows (h : scene.Shows fonts b) (label : String) (percent : UInt8) (row : Nat) :
    (load scene label percent row).Shows fonts (loadPortrait fonts b label percent row) :=
  ((h.write ..).bar ..).write ..

theorem drawLoads_shows (showable : scene.screen.Showable) (reading : Snapshot) :
    (drawLoads scene reading).Shows scene.studio.answers
      (loadsPortrait scene.studio.answers reading) := by
  obtain ⟨old, found, size⟩ := showable.picture
  have dark := (Scene.Shows.mk found rfl).clear
  rw [Bitmap.clear_eq size] at dark
  have named := dark.write .mono6x8 reading.hostname (-1) hostnameRow
  have loads := load_shows (load_shows named "CPU" reading.cpuPercent cpuRow)
    "MEM" reading.memoryPercent memoryRow
  rw [drawLoads, loadsPortrait]
  exact loads.line separatorColumn.toNat separatorRow separatorRows

section Rates

/-- A scene in which the transmit rate has been measured. -/
def measured (scene : Scene) (reading : Snapshot) : Scene :=
  { scene with studio := (scene.studio.textWidth .mono5x8 reading.transmitRate).2 }

theorem textWidth_eq_rateWidth (scene : Scene) (reading : Snapshot) :
    (scene.studio.textWidth .mono5x8 reading.transmitRate).1 =
      rateWidth scene.studio.answers reading :=
  scene.studio.textWidth_eq .mono5x8 reading.transmitRate

theorem drawRates_of_le (room : rateWidth scene.studio.answers reading ≤ 65532) :
    drawRates scene reading = (writeRates (measured scene reading) reading
      (77 - rateWidth scene.studio.answers reading), none) := by
  rw [drawRates]
  dsimp only
  rw [textWidth_eq_rateWidth, transmitColumn_of_le room]
  rfl

theorem drawRates_of_gt (wide : 65532 < rateWidth scene.studio.answers reading) :
    drawRates scene reading = (measured scene reading,
      some (.overflow (3 + rateWidth scene.studio.answers reading))) := by
  rw [drawRates]
  dsimp only
  rw [textWidth_eq_rateWidth, transmitColumn_of_gt wide]
  rfl

theorem drawRates_shows (h : scene.Shows fonts b) (reading : Snapshot) :
    (drawRates scene reading).2 = rateStop fonts reading ∧
      (drawRates scene reading).1.Shows fonts (ratesPortrait fonts b reading) := by
  have measured := (h.measure .mono5x8 reading.transmitRate).2
  obtain rfl := h.fonts
  rw [ratesPortrait]
  rcases Nat.lt_or_ge 65532 (rateWidth scene.studio.answers reading) with wide | room
  · rw [drawRates_of_gt wide, rateStop_of_gt wide]
    exact ⟨rfl, measured⟩
  · rw [drawRates_of_le room, rateStop_of_le room]
    exact ⟨rfl, (measured.write ..).write ..⟩

end Rates

theorem refresh_eq (feed : SensorFeed) (scene : Scene) :
    refresh feed scene = ⟨feed.sample.2,
      (drawRates (drawLoads scene feed.sample.1) feed.sample.1).1,
      (drawRates (drawLoads scene feed.sample.1) feed.sample.1).2.map .stop⟩ := by
  rw [refresh]

/-- A redraw leaves the portrait of the next reading of its feed. Only a machine that finds no
place for the rates interrupts it. -/
theorem refresh_shows (scene : Scene) (showable : scene.screen.Showable) (feed : SensorFeed) :
    (refresh feed scene).interruption =
        (rateStop scene.studio.answers feed.sample.1).map .stop ∧
      (refresh feed scene).scene.Shows scene.studio.answers
        (portrait scene.studio.answers feed.sample.1) := by
  obtain ⟨stop, drawn⟩ := drawRates_shows (drawLoads_shows showable feed.sample.1) feed.sample.1
  rw [refresh_eq]
  dsimp only
  rw [stop]
  exact ⟨rfl, drawn⟩

/-- The plugin does what the monitor does. -/
def IsMonitor (p : Plugin SensorFeed) : Prop := p.behaviour = ⟨setUp, refresh⟩

/-- The same for a plugin in its studio. -/
theorem plugin_refresh_shows {p : Plugin SensorFeed} (monitor : IsMonitor p)
    (showable : p.screen.Showable) (studio : Studio) :
    (p.refresh studio).2.2 = (rateStop studio.answers p.memory.sample.1).map .stop ∧
      Scene.Shows ⟨(p.refresh studio).1.screen, (p.refresh studio).2.1⟩ studio.answers
        (portrait studio.answers p.memory.sample.1) := by
  have shown := refresh_shows ⟨p.screen, studio⟩ showable p.memory
  rw [Plugin.refresh, monitor]
  dsimp only
  generalize refresh p.memory ⟨p.screen, studio⟩ = after at shown ⊢
  exact shown

section Letters

/-- A studio without files, and with a dark sheet for the rates. -/
def darkStudio : Studio :=
  let sheet := Bitmap.dark ⟨80, 48⟩ (by decide)
  let g : GlyphSheet := ⟨Font.mono5x8.spec, sheet, Font.mono5x8.spec.placements⟩
  ⟨FileTree.empty, (FontCache.empty "").insert .mono5x8 g, []⟩

theorem genuine_darkStudio : darkStudio.fonts.Genuine :=
  (FontCache.genuine_empty "").insert (GlyphSheet.ofBitmap_of_isOk (by decide +kernel))

/-- Readings of a rate that is written with the given number of letters. -/
def letters (count : Nat) : SensorFeed :=
  ⟨[{ Snapshot.standard with transmitRate := String.ofList (List.replicate count 'K') }]⟩

theorem length_letters (count : Nat) :
    (letters count).sample.1.transmitRate.toList.length = count := by
  change (String.ofList (List.replicate count 'K')).toList.length = count
  rw [String.toList_ofList, List.length_replicate]

theorem rateWidth_letters (count : Nat) :
    rateWidth darkStudio.answers (letters count).sample.1 = min (5 * count) 65535 := by
  have answered : darkStudio.answers .mono5x8 = some _ := rfl
  rw [rateWidth_eq (Studio.genuine_answers genuine_darkStudio), answered,
    if_neg (Option.some_ne_none _), length_letters]

/-- For so many of them no place is found. -/
theorem rateStop_letters {count : Nat} (many : 13106 < count) :
    rateStop darkStudio.answers (letters count).sample.1 = some (.overflow 65538) := by
  have width := rateWidth_letters count
  rw [Nat.min_eq_right (by omega)] at width
  rw [rateStop_of_gt (by omega), width]

end Letters

end LcdCompositor.SystemMonitor
