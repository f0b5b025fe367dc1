import LcdCompositor.Proofs.Drawing.Centered
import Mathlib.Data.List.Induction

/-!
# Where the cells of a text stand

The pen moves by an advance behind every character, so the cells of a text stand in order, and
in a font without condensed letters at equal distances. In such a font the place of every cell
follows from its number alone.
-/

namespace LcdCompositor

namespace GlyphSheet

variable {g : GlyphSheet} {c : Char} {pitch : Nat}

/-- Behind no character the pen moves by less than both shifts leave. -/
theorem le_advance (g : GlyphSheet) (c : Char) :
    g.cellWidth - g.spec.leftShift - g.spec.extraShift ≤ g.advance c := by
  unfold advance
  dsimp only
  split <;> omega

/-- Without condensed letters all advances are equal. -/
theorem advance_of_even (even : g.spec.extraShift = 0) (c : Char) :
    g.advance c = g.cellWidth - g.spec.leftShift := by
  rw [advance, even, if_neg fun condensed => absurd condensed.1 (Nat.lt_irrefl 0)]

/-- A text is then as wide as it is long, up to the limit. -/
theorem textWidth_of_pitch (even : ∀ c, g.advance c = pitch) (chars : List Char) :
    g.textWidth (String.ofList chars) = min (pitch * chars.length) widthLimit := by
  induction chars using List.reverseRecOn with
  | nil => rfl
  | append_singleton front c ih =>
    rw [textWidth_concat, ih, even, List.length_append, List.length_singleton, Nat.mul_succ]
    omega

/-- The smallest font fills its cells, and its pen moves from one to the next. -/
theorem mono5x8_geometry {picture : Bitmap} (made : ofBitmap picture Font.mono5x8.spec = .ok g) :
    g.cellWidth = 5 ∧ g.cellHeight = 8 ∧ ∀ c, g.advance c = 5 := by
  obtain rfl := ofBitmap_eq made
  exact ⟨rfl, rfl, advance_of_even rfl⟩

/-- The condensed font has cells of six columns and takes off one of them at most. -/
theorem mono6x8_geometry {picture : Bitmap} (made : ofBitmap picture Font.mono6x8.spec = .ok g) :
    g.cellWidth = 6 ∧ g.cellHeight = 8 ∧ ∀ c, 5 ≤ g.advance c := by
  obtain rfl := ofBitmap_eq made
  exact ⟨rfl, rfl, le_advance ⟨Font.mono6x8.spec, picture, _⟩⟩

/-- The bold font keeps two blank columns in front of its glyphs. -/
theorem bold16x16_geometry {picture : Bitmap}
    (made : ofBitmap picture Font.bold16x16.spec = .ok g) :
    g.cellWidth = 16 ∧ g.cellHeight = 16 ∧ ∀ c, g.advance c = 14 := by
  obtain rfl := ofBitmap_eq made
  exact ⟨rfl, rfl, advance_of_even rfl⟩

end GlyphSheet

namespace Drawing

variable {g : GlyphSheet} {target drawn : Bitmap} {chars : List Char} {c : Char} {cell : Cell}
  {left top count pitch i j px py : Nat}

/-- Cells of a font without condensed letters stand at equal distances. -/
theorem penAt_of_pitch (even : ∀ c, g.advance c = pitch) (left : Nat) (inside : i ≤ chars.length)
    (short : pitch * i ≤ GlyphSheet.widthLimit) :
    penAt g left chars i = left + pitch * i := by
  rw [penAt, GlyphSheet.textWidth_of_pitch even, List.length_take, Nat.min_eq_left inside,
    Nat.min_eq_left short]

/-- Those that are drawn are never too far behind the start for that. -/
theorem LongestFit.penAt_eq (longest : LongestFit g target chars left top count)
    (even : ∀ c, g.advance c = pitch) (drawn : i < count) :
    penAt g left chars i = left + pitch * i := by
  have inside : i < chars.length := Nat.lt_of_lt_of_le drawn longest.inside
  obtain ⟨c, -, -, wide, -⟩ := longest.exists_fits drawn
  have limit := GlyphSheet.width_lt_limit target
  rw [penAt, GlyphSheet.textWidth_of_pitch even, List.length_take, Nat.min_eq_left inside.le]
    at wide ⊢
  omega

/-- The cells that are drawn of a text stand in order, and each one as far behind another as
the other's advance at least. -/
theorem LongestFit.penAt_add_advance_le (longest : LongestFit g target chars left top count)
    (drawn : i < count) (here : chars[i]? = some c) (behind : i < j) :
    penAt g left chars i + g.advance c ≤ penAt g left chars j := by
  obtain ⟨-, wide, -⟩ := longest.fitting i drawn c here
  rw [← penAt_succ here wide]
  exact penAt_le_penAt g left chars behind

/-- No later cell comes over the columns of a cell in front of the next pen, so there the frame
shows the cell as it is on the sheet. -/
theorem Lettered.shows_cell (lettered : Lettered g target drawn chars left top count)
    (longest : LongestFit g target chars left top count) (inside : i < count)
    (here : chars[i]? = some c) (found : g.cell c = some cell)
    (covers : g.Covers (penAt g left chars i) top px py)
    (front : px < penAt g left chars i + g.advance c) :
    drawn.getPixel px py =
      g.picture.getPixel (cell.column * g.cellWidth + (px - penAt g left chars i))
        (cell.row * g.cellHeight + (py - top)) := by
  refine lettered.covered inside here found covers fun j behind _ later => ?_
  have next := longest.penAt_add_advance_le inside here behind
  have left := later.1
  omega

/-- A text with all its characters in the font is drawn whole if its cells fit in side by
side. -/
theorem LongestFit.whole_of_room (longest : LongestFit g target chars left top count)
    (even : ∀ c, g.advance c = g.cellWidth) (known : ∀ c ∈ chars, ∃ cell, g.cell c = some cell)
    (tall : top + g.cellHeight ≤ target.height)
    (room : left + g.cellWidth * chars.length ≤ target.width) : count = chars.length := by
  by_contra short
  have inside : count < chars.length := Nat.lt_of_le_of_ne longest.inside short
  have limit := GlyphSheet.width_lt_limit target
  have cells : g.cellWidth * (count + 1) ≤ g.cellWidth * chars.length :=
    Nat.mul_le_mul_left g.cellWidth inside
  have wide := longest.wide known tall (List.getElem?_eq_getElem inside)
  rw [Nat.mul_succ] at cells
  rw [penAt_of_pitch even left longest.inside (by omega)] at wide
  omega

end Drawing

end LcdCompositor
