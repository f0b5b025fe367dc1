import LcdCompositor.Proofs.Bitmap.Pixel
import LcdCompositor.Proofs.Screen.Operation

/-!
# What a progress bar leaves on a frame

A bar replaces thirteen bytes in each of seven rows, so it covers 104 columns from the start
of the byte that holds its left edge on. The two columns behind its right border are dark,
the border is lit, and the fill is a chessboard pattern up to the column of the percentage.

Behind this stand two facts about bytes. A byte of a bar holds eight of its pixels, whether
it is full, cut or empty; and the last byte of a bar is there exactly if the frame has the
rows, because the columns have been looked at before.
-/

namespace LcdCompositor

open Bitmap

namespace Drawing

/-- Whether a bar has the pixel in column `c` of row `r` lit: on its border, and inside it in
every other column up to `percent`. -/
def barLit (percent c r : Nat) : Bool :=
  decide (c < 102 ∧ (r = 0 ∨ r = 6 ∨ c = 0 ∨ c = 101 ∨ c ≤ percent ∧ (c + r) % 2 = 1))

section Bytes

variable {percent row i j : Nat}

/-- The patterns light every other pixel, and start with the one or the other by turns. -/
theorem bitFromLeft_ditherPattern (row : Nat) (hj : j < 8) :
    bitFromLeft (ditherPattern row) j = decide ((j + row) % 2 = 1) := by
  have odd : ∀ j < 8, bitFromLeft 0xaa j = decide (j % 2 = 0) := by decide
  have even : ∀ j < 8, bitFromLeft 0x55 j = decide (j % 2 = 1) := by decide
  unfold ditherPattern
  split
  · rw [odd j hj, decide_eq_decide]
    omega
  · rw [even j hj, decide_eq_decide]
    omega

theorem bitFromLeft_cut : ∀ k < 8, ∀ j < 8,
    bitFromLeft (0xff <<< (7 - k)).toUInt8 j = decide (j ≤ k) := by
  decide

/-- The fill reaches to the percentage: bytes before it are full, its own byte is cut behind
it, and those after it are dark. -/
theorem bitFromLeft_fill (hj : j < 8) :
    bitFromLeft
        (if i < percent / 8 then ditherPattern row
        else if i = percent / 8 then ditherPattern row &&& (0xff <<< (7 - percent % 8)).toUInt8
        else 0) j =
      decide (8 * i + j ≤ percent ∧ (8 * i + j + row) % 2 = 1) := by
  split
  · rw [bitFromLeft_ditherPattern row hj, decide_eq_decide]
    omega
  · split
    · rw [bitFromLeft_and, bitFromLeft_ditherPattern row hj,
        bitFromLeft_cut (percent % 8) (Nat.mod_lt percent (by decide)) j hj, ← Bool.decide_and,
        decide_eq_decide]
      omega
    · rw [bitFromLeft_zero, eq_comm, decide_eq_false_iff_not]
      omega

/-- A byte of a bar holds eight of its pixels. -/
theorem bitFromLeft_barByte (small : percent ≤ 100) (hi : i < barBytes) (hj : j < 8) :
    bitFromLeft (barByte percent row i) j = barLit percent (8 * i + j) row := by
  have solid : ∀ j < 8, bitFromLeft 0xff j = true := by decide
  have ending : ∀ j < 8, bitFromLeft 0xfc j = decide (j < 6) := by decide
  have left : ∀ j < 8, bitFromLeft 0x80 j = decide (j = 0) := by decide
  have right : ∀ j < 8, bitFromLeft 0x04 j = decide (j = 5) := by decide
  unfold barBytes at hi
  unfold barByte barHeight barBytes barLit
  by_cases border : row = 0 ∨ row = 7 - 1
  · rw [if_pos border]
    split
    · rw [ending j hj, decide_eq_decide]
      omega
    · rw [solid j hj, eq_comm, decide_eq_true_eq]
      omega
  · have first : bitFromLeft (if i = 0 then 0x80 else 0) j = decide (8 * i + j = 0) := by
      split
      · rw [left j hj, decide_eq_decide]
        omega
      · rw [bitFromLeft_zero, eq_comm, decide_eq_false_iff_not]
        omega
    have last : bitFromLeft (if i = 13 - 1 then 0x04 else 0) j = decide (8 * i + j = 101) := by
      split
      · rw [right j hj, decide_eq_decide]
        omega
      · rw [bitFromLeft_zero, eq_comm, decide_eq_false_iff_not]
        omega
    rw [if_neg border, bitFromLeft_or, bitFromLeft_or, bitFromLeft_fill hj, first, last,
      ← Bool.decide_or, ← Bool.decide_or, decide_eq_decide]
    omega

end Bytes

section Pixels

variable {target drawn : Bitmap} {percent x y row i column px py : Nat}

/-- A byte of a row puts eight pixels in place. -/
theorem getPixel_barStep (small : percent ≤ 100) (room : column + barBytes ≤ target.stride)
    (hi : i < barBytes) (hx : px < target.width) (hy : py < target.height) :
    (target.modifyByte (y * target.stride + column + i) fun _ =>
        barByte percent row i).getPixel px py =
      if py = y ∧ px / 8 = column + i then barLit percent (px - 8 * column) row
      else target.getPixel px py := by
  rw [getPixel_changedByte (Nat.add_assoc ..) (by omega) hx hy]
  by_cases here : py = y ∧ px / 8 = column + i
  · have place : 8 * i + px % 8 = px - 8 * column := by omega
    rw [if_pos here, if_pos here, bitFromLeft_barByte small hi (Nat.mod_lt px (by decide)), place]
  · rw [if_neg here, if_neg here]

/-- A row of a bar replaces 104 pixels. -/
theorem getPixel_barRow (small : percent ≤ 100) (room : column + barBytes ≤ target.stride)
    (hx : px < target.width) (hy : py < target.height) :
    (barRow target percent row (y * target.stride + column)).getPixel px py =
      if py = y ∧ 8 * column ≤ px ∧ px < 8 * column + 104 then
        barLit percent (px - 8 * column) row
      else target.getPixel px py := by
  obtain ⟨-, pixel⟩ :
      _ ∧ (barRow target percent row (y * target.stride + column)).getPixel px py = _ :=
    getPixel_steps fun b i size hi => by
      have stride := stride_of_size size
      rw [← stride]
      exact ⟨(b.size_modifyByte ..).trans size, getPixel_barStep small (stride ▸ room) hi
        (width_of_size size ▸ hx) (height_of_size size ▸ hy)⟩
  rw [pixel]
  refine if_congr ⟨?_, ?_⟩ rfl rfl
  · rintro ⟨i, hi, here, place⟩
    unfold barBytes at hi
    omega
  · rintro ⟨here, left, right⟩
    refine ⟨px / 8 - column, ?_⟩
    unfold barBytes
    omega

/-- The rows of a bar replace its rectangle. -/
theorem getPixel_barRows (small : percent ≤ 100) (room : column + barBytes ≤ target.stride)
    (hx : px < target.width) (hy : py < target.height) :
    ((List.range barHeight).foldl (fun b row =>
        barRow b percent row ((y + row) * target.stride + column)) target).getPixel px py =
      if 8 * column ≤ px ∧ px < 8 * column + 104 ∧ y ≤ py ∧ py < y + 7 then
        barLit percent (px - 8 * column) (py - y)
      else target.getPixel px py := by
  have steps (b : Bitmap) (row : Nat) (size : b.size = target.size) (_ : row < barHeight) :
      (barRow b percent row ((y + row) * target.stride + column)).size = target.size ∧
        (barRow b percent row ((y + row) * target.stride + column)).getPixel px py =
          if py = y + row ∧ 8 * column ≤ px ∧ px < 8 * column + 104 then
            barLit percent (px - 8 * column) (py - y)
          else b.getPixel px py := by
    have stride := stride_of_size size
    refine ⟨(size_barRow ..).trans size, ?_⟩
    rw [← stride, getPixel_barRow small (stride ▸ room) (width_of_size size ▸ hx)
      (height_of_size size ▸ hy)]
    by_cases covered : py = y + row ∧ 8 * column ≤ px ∧ px < 8 * column + 104
    · have below : row = py - y := by omega
      rw [if_pos covered, if_pos covered, below]
    · rw [if_neg covered, if_neg covered]
  rw [(getPixel_steps steps).2]
  refine if_congr ⟨?_, ?_⟩ rfl rfl
  · rintro ⟨row, hr, here, left, right⟩
    unfold barHeight at hr
    omega
  · rintro ⟨left, right, above, below⟩
    refine ⟨py - y, ?_⟩
    unfold barHeight
    omega

/-- Where the columns of a bar are there, its last byte is there exactly if its rows are. -/
theorem barEnd_lt_iff (room : x / 8 + barBytes ≤ target.stride) :
    barEnd target.stride x y < target.bytes.size ↔ y + barHeight ≤ target.height := by
  have size : target.bytes.size = target.stride * target.height := target.bytes_size
  have corner : barEnd target.stride x y = (y + 6) * target.stride + (x / 8 + 12) := rfl
  unfold barBytes at room
  unfold barHeight
  rw [size, corner, Nat.mul_comm target.stride]
  constructor
  · intro inside
    by_contra low
    have beyond : target.height * target.stride ≤ (y + 6) * target.stride :=
      Nat.mul_le_mul_right _ (by omega)
    omega
  · intro tall
    calc (y + 6) * target.stride + (x / 8 + 12) < (y + 6) * target.stride + target.stride := by
          omega
      _ = (y + 7) * target.stride := (Nat.succ_mul ..).symm
      _ ≤ target.height * target.stride := Nat.mul_le_mul_right _ tall

/-- A bar that fits in by its columns has room for its bytes, wherever in a byte it starts. -/
theorem bar_room (wide : x + barWidth ≤ target.width) : x / 8 + barBytes ≤ target.stride := by
  have width := target.width_eq
  unfold barWidth at wide
  unfold barBytes
  omega

theorem progressBar_of_outside
    (out : target.width < x + barWidth ∨ target.height < y + barHeight) :
    ∃ cause, progressBar target percent x y = .error (.bounds cause) := by
  unfold progressBar
  split
  · exact ⟨_, rfl⟩
  next wide =>
    have room : x / 8 + barBytes ≤ target.stride := bar_room (Nat.le_of_not_lt wide)
    have ends : target.bytes.size ≤ barEnd target.stride x y := by
      apply Nat.le_of_not_lt
      rw [barEnd_lt_iff room]
      omega
    rw [if_pos (Or.inr ends)]
    exact ⟨_, rfl⟩

theorem progressBar_of_inside (wide : x + barWidth ≤ target.width)
    (tall : y + barHeight ≤ target.height) :
    progressBar target percent x y = .ok ((List.range barHeight).foldl (fun b row =>
      barRow b (min percent 100) row ((y + row) * target.stride + x / 8)) target) := by
  have room : x / 8 + barBytes ≤ target.stride := bar_room wide
  have ends : barEnd target.stride x y < target.bytes.size := (barEnd_lt_iff room).mpr tall
  rw [progressBar, if_neg (Nat.not_lt_of_le wide), if_neg]
  omega

/-- A bar that was drawn fitted in, and it replaced its rectangle. -/
theorem getPixel_progressBar (drew : progressBar target percent x y = .ok drawn) (px py : Nat) :
    (x + barWidth ≤ target.width ∧ y + barHeight ≤ target.height) ∧
      drawn.getPixel px py =
        if 8 * (x / 8) ≤ px ∧ px < 8 * (x / 8) + 104 ∧ y ≤ py ∧ py < y + 7 then
          barLit (min percent 100) (px - 8 * (x / 8)) (py - y)
        else target.getPixel px py := by
  by_cases fits : x + barWidth ≤ target.width ∧ y + barHeight ≤ target.height
  swap
  · obtain ⟨cause, failed⟩ : ∃ cause, progressBar target percent x y = .error (.bounds cause) :=
      progressBar_of_outside (by omega)
    rw [failed] at drew
    cases drew
  refine ⟨fits, ?_⟩
  have size := size_of_progressBar drew
  obtain ⟨wide, tall⟩ := fits
  have room : x / 8 + barBytes ≤ target.stride := bar_room wide
  by_cases inside : px < target.width ∧ py < target.height
  · rw [progressBar_of_inside wide tall] at drew
    cases drew
    exact getPixel_barRows (Nat.min_le_right percent 100) room inside.1 inside.2
  · -- The rectangle lies inside, so a pixel outside is dark before and after.
    have width := target.width_eq
    have drawnWidth := width_of_size size
    have drawnHeight := height_of_size size
    unfold barBytes at room
    unfold barHeight at tall
    rw [if_neg (by omega), getPixel_of_outside (by omega), getPixel_of_outside (by omega)]

/-- A bar that cannot be drawn leaves the frame that it was to be drawn on. -/
theorem screen_bar_of_error {fault : Fault} {scene : Scene}
    (shown : scene.screen.picture .current = .ok target)
    (failed : progressBar target percent x y = .error fault) :
    (scene.bar percent x y).screen = scene.screen :=
  Screen.screen_drawOr_of_error "progress bar" shown failed

end Pixels

/-- A bar is refused if and only if its 102 columns pass the right edge or its seven rows the
lower one, and the frame then stays as it was. Otherwise it replaces 104 columns from the start
of the byte that holds `x` on: its border is lit, its fill is lit in every other pixel up to
the percentage, which counts as 100 if it is more, and the rest of these columns is dark. Every
other pixel stays. -/
theorem progressBar_pixels (target : Bitmap) (percent x y : Nat) :
    ((∃ cause, progressBar target percent x y = .error (.bounds cause)) ↔
      target.width < x + 102 ∨ target.height < y + 7) ∧
    ((∃ drawn, progressBar target percent x y = .ok drawn) ↔
      x + 102 ≤ target.width ∧ y + 7 ≤ target.height) ∧
    (∀ fault, progressBar target percent x y = .error fault → ∀ scene : Scene,
      scene.screen.picture .current = .ok target →
        (scene.bar percent x y).screen = scene.screen) ∧
    (∀ drawn, progressBar target percent x y = .ok drawn → drawn.size = target.size ∧
      (∀ c r, c < 104 → r < 7 →
        (drawn.getPixel (8 * (x / 8) + c) (y + r) = true ↔
          c < 102 ∧ (r = 0 ∨ r = 6 ∨ c = 0 ∨ c = 101 ∨
            c ≤ min percent 100 ∧ (c + r) % 2 = 1))) ∧
      ∀ px py, ¬ (8 * (x / 8) ≤ px ∧ px < 8 * (x / 8) + 104 ∧ y ≤ py ∧ py < y + 7) →
        drawn.getPixel px py = target.getPixel px py) := by
  refine ⟨?refused, ?drawn, ?kept, ?pixels⟩
  case refused =>
    constructor
    · rintro ⟨cause, failed⟩
      by_contra fits
      rw [progressBar_of_inside (by unfold barWidth; omega) (by unfold barHeight; omega)] at failed
      cases failed
    · exact progressBar_of_outside
  case drawn =>
    constructor
    · rintro ⟨drawn, drew⟩
      exact (getPixel_progressBar drew 0 0).1
    · rintro ⟨wide, tall⟩
      exact ⟨_, progressBar_of_inside wide tall⟩
  case kept =>
    intro fault failed scene shown
    exact screen_bar_of_error shown failed
  case pixels =>
    intro drawn drew
    refine ⟨size_of_progressBar drew, ?_, ?_⟩
    · intro c r hc hr
      obtain ⟨-, pixel⟩ := getPixel_progressBar drew (8 * (x / 8) + c) (y + r)
      rw [pixel, if_pos (by omega), Nat.add_sub_cancel_left, Nat.add_sub_cancel_left, barLit,
        decide_eq_true_eq]
    · intro px py outside
      obtain ⟨-, pixel⟩ := getPixel_progressBar drew px py
      rw [pixel, if_neg outside]

/-- A bar on a lit frame, asked for at column 5 with more than is possible. It starts at column
0, its last fill is in column 100, the two columns behind its border are dark, and the next one
stays lit. It would not start any further to the right, nor one row further down. -/
theorem progressBar_pixels_full :
    let frame := (Bitmap.dark ⟨112, 8⟩ (by decide)).fill 0xff
    (∃ drawn, progressBar frame 250 5 1 = .ok drawn ∧ drawn.getPixel 0 3 = true ∧
      drawn.getPixel 100 4 = true ∧ drawn.getPixel 99 4 = false ∧ drawn.getPixel 101 4 = true ∧
      drawn.getPixel 102 4 = false ∧ drawn.getPixel 104 4 = true) ∧
      (∃ cause, progressBar frame 250 11 1 = .error (.bounds cause)) ∧
      ∃ cause, progressBar frame 250 5 2 = .error (.bounds cause) := by
  intro frame
  have width : frame.width = 112 := by decide +kernel
  have height : frame.height = 8 := by decide +kernel
  obtain ⟨-, fits, -, shows⟩ := progressBar_pixels frame 250 5 1
  obtain ⟨drawn, drew⟩ := fits.mpr (by rw [width, height]; decide)
  obtain ⟨-, inside, outside⟩ := shows drawn drew
  have dark {c : Nat} (hc : c < 104)
      (unlit : ¬ (c < 102 ∧ (3 = 0 ∨ 3 = 6 ∨ c = 0 ∨ c = 101 ∨
        c ≤ min 250 100 ∧ (c + 3) % 2 = 1))) : drawn.getPixel (0 + c) (1 + 3) = false :=
    Bool.eq_false_iff.mpr (mt (inside c 3 hc (by decide)).mp unlit)
  refine ⟨⟨drawn, drew, ?_, ?_, ?_, ?_, ?_, ?_⟩, ?_, ?_⟩
  · exact (inside 0 2 (by decide) (by decide)).mpr (by decide)
  · exact (inside 100 3 (by decide) (by decide)).mpr (by decide)
  · exact dark (c := 99) (by decide) (by decide)
  · exact (inside 101 3 (by decide) (by decide)).mpr (by decide)
  · exact dark (c := 102) (by decide) (by decide)
  · rw [outside 104 4 (by decide)]
    decide +kernel
  · refine (progressBar_pixels frame 250 11 1).1.mpr (.inl ?_)
    rw [width]
    decide
  · refine (progressBar_pixels frame 250 5 2).1.mpr (.inr ?_)
    rw [height]
    decide

end Drawing

end LcdCompositor
