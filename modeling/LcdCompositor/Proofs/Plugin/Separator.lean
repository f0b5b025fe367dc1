import LcdCompositor.Proofs.Drawing.Pitch
import LcdCompositor.Proofs.Plugin.Monitor
import LcdCompositor.Proofs.Screen.Retouch

/-!
# What becomes of the line between the rates

The line is drawn first, and then the rates are written on both sides of it. The received one
starts behind the line and stays there. The one that is sent ends in front of the line as long
as it has room there. A longer one starts at the left edge, where its first sixteen cells end
at the line and the next one comes over it. Over the longest texts the machine stops before
either rate is written, and the line stays as it was drawn.
-/

namespace LcdCompositor.SystemMonitor

open Bitmap Drawing

/-- The column at which the rate that is sent starts. -/
def transmitStart (rate : String) : Nat := 77 - 5 * rate.toList.length

/-- The line on a frame, and then the rates on it: so many characters of the one that is sent,
and so many of the one that is received. -/
structure RatesDrawn (g : GlyphSheet) (reading : Snapshot) (lined written frame : Bitmap)
    (sent received : Nat) : Prop where
  panel : lined.size = Panel.size
  line : ∀ y, 33 ≤ y → y < 42 → lined.getPixel 80 y = true
  sentFit : LongestFit g lined reading.transmitRate.toList (transmitStart reading.transmitRate) 34
    sent
  sentShown : Lettered g lined written reading.transmitRate.toList
    (transmitStart reading.transmitRate) 34 sent
  receivedFit : LongestFit g written reading.receiveRate.toList 83 34 received
  receivedShown : Lettered g written frame reading.receiveRate.toList 83 34 received

section Column

variable {rate : String} {count i : Nat}

theorem transmitStart_le (rate : String) : transmitStart rate ≤ 77 := Nat.sub_le ..

/-- Up to sixteen cells end in front of the line. -/
theorem cell_apart (inside : count ≤ rate.toList.length) (few : count ≤ 16) (drawn : i < count) :
    transmitStart rate + 5 * i + 5 ≤ 80 := by
  rw [transmitStart]
  omega

/-- Of more cells the seventeenth is on the line. -/
theorem exists_cell_on_line (inside : count ≤ rate.toList.length) (many : ¬ count ≤ 16) :
    ∃ i < count, transmitStart rate + 5 * i ≤ 80 ∧ 80 < transmitStart rate + 5 * i + 5 := by
  rw [transmitStart]
  exact ⟨16, by omega, by omega, by omega⟩

end Column

namespace RatesDrawn

variable {g : GlyphSheet} {sheet lined written frame : Bitmap} {reading : Snapshot}
  {sent received i y r : Nat} {c : Char} {cell : Cell}

/-- Column 80 is out of reach for the rate that is received. -/
theorem column (h : RatesDrawn g reading lined written frame sent received) (y : Nat) :
    frame.getPixel 80 y = written.getPixel 80 y := by
  apply h.receivedShown.uncovered
  intro j _ covers
  have behind : 83 ≤ penAt g 83 reading.receiveRate.toList j := Nat.le_add_right ..
  have left := covers.1
  omega

/-- The line starts above both rates. -/
theorem tip (h : RatesDrawn g reading lined written frame sent received) :
    frame.getPixel 80 33 = true := by
  rw [h.column, h.sentShown.uncovered fun i _ covers => absurd covers.2.2.1 (by decide)]
  exact h.line 33 (by decide) (by decide)

section Geometry

variable (h : RatesDrawn g reading lined written frame sent received)
  (made : GlyphSheet.ofBitmap sheet Font.mono5x8.spec = .ok g)
include h made

/-- The cells of the rate that is sent stand side by side. -/
theorem pen (inside : i < sent) :
    penAt g (transmitStart reading.transmitRate) reading.transmitRate.toList i =
      transmitStart reading.transmitRate + 5 * i :=
  h.sentFit.penAt_eq (GlyphSheet.mono5x8_geometry made).2.2 inside

/-- The line is whole if all cells end in front of it. -/
theorem whole
    (apart : ∀ i < sent, transmitStart reading.transmitRate + 5 * i + 5 ≤ 80)
    (above : 33 ≤ y) (below : y < 42) : frame.getPixel 80 y = true := by
  rw [h.column, h.sentShown.uncovered, h.line y above below]
  intro i inside covers
  have left := apart i inside
  have right := covers.2.1
  rw [(GlyphSheet.mono5x8_geometry made).1, h.pen made inside] at right
  omega

/-- A cell on the line takes its place. -/
theorem covered (inside : i < sent) (here : reading.transmitRate.toList[i]? = some c)
    (found : g.cell c = some cell)
    (left : transmitStart reading.transmitRate + 5 * i ≤ 80)
    (right : 80 < transmitStart reading.transmitRate + 5 * i + 5) (hr : r < 8) :
    frame.getPixel 80 (34 + r) = sheet.getPixel
      (cell.column * 5 + (80 - (transmitStart reading.transmitRate + 5 * i)))
      (cell.row * 8 + r) := by
  obtain ⟨width, height, even⟩ := GlyphSheet.mono5x8_geometry made
  have picture : g.picture = sheet := by rw [GlyphSheet.ofBitmap_eq made]
  have place := h.pen made inside
  have covers : g.Covers
      (penAt g (transmitStart reading.transmitRate) reading.transmitRate.toList i) 34 80
      (34 + r) := by
    rw [GlyphSheet.Covers, place, width, height]
    omega
  have shown := h.sentShown.shows_cell h.sentFit inside here found covers
    (by rw [place, even]; exact right)
  rw [h.column, shown, place, width, height, picture, Nat.add_sub_cancel_left]

end Geometry

end RatesDrawn

/-- Both rates as far as they can be drawn, on a frame with the line. -/
theorem ratesPortrait_drawn {g : GlyphSheet} {sheet lined : Bitmap}
    {fonts : Font → Option GlyphSheet}
    (made : GlyphSheet.ofBitmap sheet Font.mono5x8.spec = .ok g) (found : fonts .mono5x8 = some g)
    (panel : lined.size = Panel.size)
    (line : ∀ y, 33 ≤ y → y < 42 → lined.getPixel 80 y = true) (reading : Snapshot)
    (short : reading.transmitRate.toList.length ≤ 13106) :
    ∃ written sent received, RatesDrawn g reading lined written
      (ratesPortrait fonts lined reading) sent received := by
  have accepted := GlyphSheet.accepted_of_ofBitmap made
  have near := transmitStart_le reading.transmitRate
  have width := rateWidth_of_made made found reading
  rw [Nat.min_eq_left (by omega)] at width
  rw [ratesPortrait, rateStop_of_le (by omega), found, width, ← transmitStart]
  obtain ⟨sent, sentFit, -, sentShown⟩ := text_lettered accepted
    (x := (transmitStart reading.transmitRate : Nat)) (y := rateRow) (by omega) (by decide) lined
    reading.transmitRate (startAt_natCast ..).symm (rfl : 34 = _)
  obtain ⟨received, receivedFit, -, receivedShown⟩ := text_lettered accepted
    (x := (separatorColumn + rateGap).toNat) (y := rateRow) (by decide) (by decide)
    (text g lined reading.transmitRate _ rateRow).1 reading.receiveRate (rfl : 83 = _)
    (rfl : 34 = _)
  exact ⟨_, sent, received, panel, line, sentFit, sentShown, receivedFit, receivedShown⟩

/-- The rates come last, and the line in front of them is drawn on a frame of the panel. -/
theorem loadsPortrait_line (fonts : Font → Option GlyphSheet) (reading : Snapshot) :
    (loadsPortrait fonts reading).size = Panel.size ∧
      ∀ y, 33 ≤ y → y < 42 → (loadsPortrait fonts reading).getPixel 80 y = true := by
  obtain ⟨b, size, drawn⟩ : ∃ b, b.size = Panel.size ∧
      loadsPortrait fonts reading = attempt b fun b => verticalLine b 80 33 9 := by
    refine ⟨_, ?_, rfl⟩
    simp only [loadPortrait, size_inscribe, size_attempt size_of_progressBar]
    rfl
  have line := (allOrNothing_line size 80 33 9).drawn (.inr (by decide))
  rw [drawn]
  exact ⟨line.size.trans size, fun y above below => line.inside ⟨rfl, above, below⟩⟩

section Redraw

variable {g : GlyphSheet} {sheet : Bitmap} {scene : Scene}

/-- A redraw leaves the line on the frame, and then the rates. -/
theorem refresh_ratesDrawn (made : GlyphSheet.ofBitmap sheet Font.mono5x8.spec = .ok g)
    (showable : scene.screen.Showable) (answered : scene.studio.answers .mono5x8 = some g)
    {feed : SensorFeed} (short : feed.sample.1.transmitRate.toList.length ≤ 13106) :
    ∃ lined written frame sent received,
      (refresh feed scene).scene.screen.picture .current = .ok frame ∧
        RatesDrawn g feed.sample.1 lined written frame sent received := by
  obtain ⟨panel, line⟩ := loadsPortrait_line scene.studio.answers feed.sample.1
  obtain ⟨written, sent, received, rates⟩ :=
    ratesPortrait_drawn made answered panel line feed.sample.1 short
  exact ⟨_, written, _, sent, received, (refresh_shows scene showable feed).2.picture, rates⟩

/-- Where the machine stops, the line stays as it was drawn. -/
theorem refresh_line_of_stop (showable : scene.screen.Showable) {feed : SensorFeed}
    (stopped : rateStop scene.studio.answers feed.sample.1 ≠ none) :
    ∃ frame, (refresh feed scene).scene.screen.picture .current = .ok frame ∧
      ∀ y, 33 ≤ y → y < 42 → frame.getPixel 80 y = true := by
  have shown := (refresh_shows scene showable feed).2.picture
  obtain ⟨stop, stopped⟩ := Option.ne_none_iff_exists'.mp stopped
  rw [portrait, ratesPortrait, stopped] at shown
  exact ⟨_, shown, (loadsPortrait_line scene.studio.answers feed.sample.1).2⟩

end Redraw

/-- A redraw leaves the line between the rates as it is drawn, if the rate that is sent has all
its cells in front of it, which are no more than sixteen. Otherwise a cell of this rate takes
the place of the line in the rows of the rates. The cells of the rate that is received start
behind the line in any case, and the line always keeps the pixel above the rates. From 13107
characters of the rate that is sent on the machine stops instead, with the line in place and
neither of the rates. -/
theorem separator_pixels {g : GlyphSheet} {sheet : Bitmap}
    (made : GlyphSheet.ofBitmap sheet Font.mono5x8.spec = .ok g) {scene : Scene}
    (showable : scene.screen.Showable) (answered : scene.studio.answers .mono5x8 = some g)
    (feed : SensorFeed) :
    let rate := feed.sample.1.transmitRate.toList
    let start := transmitStart feed.sample.1.transmitRate
    (rate.length ≤ 13106 → (refresh feed scene).interruption = none ∧
      ∃ lined written frame sent received,
        (refresh feed scene).scene.screen.picture .current = .ok frame ∧
        RatesDrawn g feed.sample.1 lined written frame sent received ∧
        (∀ i < sent, penAt g start rate i = start + 5 * i) ∧
        (∀ i < received, 83 ≤ penAt g 83 feed.sample.1.receiveRate.toList i) ∧
        frame.getPixel 80 33 = true ∧
        (sent ≤ 16 →
          (∀ i < sent, start + 5 * i + 5 ≤ 80) ∧
          ∀ y, 33 ≤ y → y < 42 → frame.getPixel 80 y = true) ∧
        (¬ sent ≤ 16 →
          ∃ i c cell, i < sent ∧ rate[i]? = some c ∧ g.cell c = some cell ∧
            start + 5 * i ≤ 80 ∧ 80 < start + 5 * i + 5 ∧
            ∀ r < 8, frame.getPixel 80 (34 + r) =
              sheet.getPixel (cell.column * 5 + (80 - (start + 5 * i))) (cell.row * 8 + r))) ∧
    (13106 < rate.length →
      (refresh feed scene).interruption = some (.stop (.overflow 65538)) ∧
      ∃ frame, (refresh feed scene).scene.screen.picture .current = .ok frame ∧
        ∀ y, 33 ≤ y → y < 42 → frame.getPixel 80 y = true) := by
  intro rate start
  have ending := (refresh_shows scene showable feed).1
  have width : rateWidth scene.studio.answers feed.sample.1 = min (5 * rate.length) 65535 :=
    rateWidth_of_made made answered feed.sample.1
  constructor
  · intro short
    rw [rateStop_of_le (by omega)] at ending
    obtain ⟨lined, written, frame, sent, received, shown, rates⟩ :=
      refresh_ratesDrawn made showable answered short
    have inside : sent ≤ rate.length := rates.sentFit.inside
    refine ⟨ending, lined, written, frame, sent, received, shown, rates, fun i => rates.pen made,
      fun i _ => Nat.le_add_right .., rates.tip, ?apart, ?covered⟩
    case apart =>
      intro few
      have apart : ∀ i < sent, start + 5 * i + 5 ≤ 80 := fun i => cell_apart inside few
      exact ⟨apart, fun y => rates.whole made apart⟩
    case covered =>
      intro many
      obtain ⟨i, drawn, left, right⟩ := exists_cell_on_line inside many
      obtain ⟨c, here, ⟨cell, found⟩, -⟩ := rates.sentFit.exists_fits drawn
      exact ⟨i, c, cell, drawn, here, found, left, right,
        fun r => rates.covered made drawn here found left right⟩
  · intro long
    rw [Nat.min_eq_right (by omega)] at width
    have wide : 65532 < rateWidth scene.studio.answers feed.sample.1 := by omega
    have stopped := rateStop_of_gt wide
    rw [stopped, width] at ending
    exact ⟨ending, refresh_line_of_stop showable (by rw [stopped]; exact Option.some_ne_none _)⟩

/-- The monitor is built with a dark frame on show. -/
theorem showable_setUp (setting : Setting) (studio : Studio) :
    (setUp setting ⟨Screen.new identity .normal, studio⟩).1.screen.Showable where
  sound := (Screen.Change.append ⟨blankFrame, 0⟩ rfl).sound (Screen.sound_new identity .normal)
  frames := List.cons_ne_nil _ _

/-- Sixteen letters and a character that the font does not have. Their cells are dark, and the
last one ends at the line, which is whole. -/
theorem separator_pixels_sixteen :
    let sheet := Bitmap.dark ⟨80, 48⟩ (by decide)
    let g : GlyphSheet := ⟨Font.mono5x8.spec, sheet, Font.mono5x8.spec.placements⟩
    let studio : Studio := ⟨FileTree.empty, (FontCache.empty "").insert .mono5x8 g, []⟩
    let feed : SensorFeed := ⟨[{ Snapshot.standard with transmitRate := "KKKKKKKKKKKKKKKK¤" }]⟩
    let scene := (setUp ⟨"", ""⟩ ⟨Screen.new identity .normal, studio⟩).1
    ∃ frame, (refresh feed scene).scene.screen.picture .current = .ok frame ∧
      ∀ y, 33 ≤ y → y < 42 → frame.getPixel 80 y = true := by
  intro sheet g studio feed scene
  have made : GlyphSheet.ofBitmap sheet Font.mono5x8.spec = .ok g :=
    GlyphSheet.ofBitmap_of_isOk (by decide +kernel)
  have showable : scene.screen.Showable := showable_setUp _ _
  obtain ⟨drawn, -⟩ := separator_pixels made showable rfl feed
  obtain ⟨-, lined, written, frame, sent, received, shown, rates, -, -, -, apart, -⟩ :=
    drawn (by decide +kernel)
  have few : sent ≤ 16 := by
    by_contra more
    have unknown : g.cell '¤' = none := by decide +kernel
    obtain ⟨⟨cell, found⟩, -⟩ := rates.sentFit.fitting 16 (by omega) '¤' (by decide +kernel)
    cases unknown.symm.trans found
  exact ⟨frame, shown, (apart few).2⟩

/-- The cell of the seventeenth letter is on the line, and puts it out. -/
theorem separator_overwritten :
    let sheet := Bitmap.dark ⟨80, 48⟩ (by decide)
    let g : GlyphSheet := ⟨Font.mono5x8.spec, sheet, Font.mono5x8.spec.placements⟩
    let studio : Studio := ⟨FileTree.empty, (FontCache.empty "").insert .mono5x8 g, []⟩
    let feed : SensorFeed := ⟨[{ Snapshot.standard with transmitRate := "KKKKKKKKKKKKKKKKK" }]⟩
    let scene := (setUp ⟨"", ""⟩ ⟨Screen.new identity .normal, studio⟩).1
    GlyphSheet.ofBitmap sheet Font.mono5x8.spec = .ok g ∧ scene.screen.Showable ∧
      scene.studio.answers .mono5x8 = some g ∧
      ∃ frame, (refresh feed scene).scene.screen.picture .current = .ok frame ∧
        ∀ y, 34 ≤ y → y < 42 → frame.getPixel 80 y = false := by
  intro sheet g studio feed scene
  have made : GlyphSheet.ofBitmap sheet Font.mono5x8.spec = .ok g :=
    GlyphSheet.ofBitmap_of_isOk (by decide +kernel)
  have showable : scene.screen.Showable := showable_setUp _ _
  have letter : g.cell 'K' = some ⟨10, 0⟩ := by decide +kernel
  have dark : ∀ r < 8, sheet.getPixel (10 * 5 + (80 - (0 + 5 * 16))) (0 * 8 + r) = false := by
    decide +kernel
  have rate : feed.sample.1.transmitRate.toList = List.replicate 17 'K' := by decide +kernel
  have short : feed.sample.1.transmitRate.toList.length ≤ 13106 := by
    rw [rate]
    decide
  obtain ⟨lined, written, frame, sent, received, shown, rates⟩ :=
    refresh_ratesDrawn made showable rfl short
  obtain ⟨width, height, even⟩ := GlyphSheet.mono5x8_geometry made
  have start : transmitStart feed.sample.1.transmitRate = 0 := by
    rw [transmitStart, rate]
    rfl
  have all : sent = feed.sample.1.transmitRate.toList.length := by
    apply rates.sentFit.whole_of_room fun c => (even c).trans width.symm
    · intro c inside
      rw [rate] at inside
      rw [List.eq_of_mem_replicate inside]
      exact ⟨_, letter⟩
    · rw [height, height_of_panel rates.panel]
      decide
    · rw [start, width, width_of_panel rates.panel, rate, List.length_replicate]
      decide
  rw [rate, List.length_replicate] at all
  refine ⟨made, showable, rfl, frame, shown, fun y above below => ?_⟩
  have covered := rates.covered made (i := 16) (r := y - 34) (by omega) (by rw [rate]; rfl) letter
    (by rw [start]) (by rw [start]; decide) (by omega)
  rw [Nat.add_sub_cancel' above, start] at covered
  exact covered.trans (dark (y - 34) (by omega))

end LcdCompositor.SystemMonitor
