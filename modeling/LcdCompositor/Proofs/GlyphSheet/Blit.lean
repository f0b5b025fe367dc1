import LcdCompositor.Drawing
import LcdCompositor.Proofs.GlyphSheet.Row

/-!
# What a glyph covers

A drawn glyph replaces the rectangle of its cell by the cell's pixels on the sheet and
touches nothing else. Behind this stand two facts about bytes: a row of a glyph holds the
pixels of its cell, at whatever bit of the sheet the cell starts, and no others; and the
mask covers exactly the columns of the cell. Everything else is the law of overlays, used
once for every byte of a line and once for every line.
-/

namespace LcdCompositor.GlyphSheet

section Blit

variable {g : GlyphSheet} {c : Char} {cell : Cell} {target drawn : Bitmap}
  {x y line px py : Nat}

/-- One byte of a line puts the pixels of its part of the cell in place. -/
theorem getPixel_stamp_glyphRow {offset : Nat} (h : g.Accepted) (here : g.cell c = some cell)
    (hl : line < g.cellHeight) (ho : offset < g.cellBytes)
    (wide : x + g.cellWidth ≤ target.width) (tall : y + line < target.height) :
    (target.stamp (x + 8 * offset) (y + line) g.cellMask
        (g.glyphRow cell line offset)).getPixel px py =
      if py = y + line ∧ x + 8 * offset ≤ px ∧ px < x + 8 * (offset + 1) ∧
          px < x + g.cellWidth then
        g.picture.getPixel (cell.column * g.cellWidth + (px - x)) (cell.row * g.cellHeight + line)
      else target.getPixel px py := by
  have start : x + 8 * offset < target.width := by
    rw [cellBytes] at ho
    omega
  have covered : ∀ i < 8, Bitmap.bitFromLeft (g.glyphRow cell line offset) i = true →
      Bitmap.bitFromLeft g.cellMask i = true := by
    intro i hi set
    rw [bitFromLeft_glyphRow (h.inside here) h hl ho hi, Bool.and_eq_true] at set
    rw [bitFromLeft_cellMask h ho hi]
    exact set.1
  rw [Bitmap.getPixel_stamp_of_covered start covered]
  by_cases window : py = y + line ∧ x + 8 * offset ≤ px ∧ px < x + 8 * offset + 8
  · obtain ⟨row, left, right⟩ := window
    have near : px - (x + 8 * offset) < 8 := by omega
    have place : 8 * offset + (px - (x + 8 * offset)) = px - x := by omega
    rw [bitFromLeft_glyphRow (h.inside here) h hl ho near, bitFromLeft_cellMask h ho near, place]
    by_cases inside : px - x < g.cellWidth
    · rw [if_pos ⟨row, left, right, by omega, by omega, decide_eq_true inside⟩,
        if_pos ⟨row, left, by omega, by omega⟩, decide_eq_true inside, Bool.true_and]
    · rw [if_neg (by simp [inside]), if_neg (by omega)]
  · rw [if_neg (by omega), if_neg (by omega)]

/-- A line of a glyph replaces one row of the cell's rectangle. -/
theorem getPixel_blitLine (h : g.Accepted) (here : g.cell c = some cell)
    (hl : line < g.cellHeight) (wide : x + g.cellWidth ≤ target.width)
    (tall : y + line < target.height) :
    (g.blitLine target cell x y line).getPixel px py =
      if py = y + line ∧ x ≤ px ∧ px < x + g.cellWidth then
        g.picture.getPixel (cell.column * g.cellWidth + (px - x)) (cell.row * g.cellHeight + line)
      else target.getPixel px py := by
  obtain ⟨-, pixel⟩ : _ ∧ (g.blitLine target cell x y line).getPixel px py = _ :=
    Bitmap.getPixel_steps fun b offset size ho => ⟨(b.size_stamp ..).trans size,
      getPixel_stamp_glyphRow h here hl ho (Bitmap.width_of_size size ▸ wide)
        (Bitmap.height_of_size size ▸ tall)⟩
  have whole : g.cellWidth ≤ 8 * g.cellBytes := by
    rw [cellBytes]
    omega
  rw [pixel]
  refine if_congr ⟨?_, ?_⟩ rfl rfl
  · rintro ⟨offset, -, row, left, -, right⟩
    omega
  · rintro ⟨row, left, right⟩
    exact ⟨(px - x) / 8, by omega⟩

/-- The first lines of a glyph replace as many rows of the cell's rectangle. -/
theorem getPixel_blitCell_upTo (h : g.Accepted) (here : g.cell c = some cell)
    (wide : x + g.cellWidth ≤ target.width) (tall : y + g.cellHeight ≤ target.height)
    {count : Nat} (hc : count ≤ g.cellHeight) :
    let drawn := (List.range count).foldl (fun b line => g.blitLine b cell x y line) target
    drawn.size = target.size ∧ ∀ px py, drawn.getPixel px py =
      if x ≤ px ∧ px < x + g.cellWidth ∧ y ≤ py ∧ py < y + count then
        g.picture.getPixel (cell.column * g.cellWidth + (px - x))
          (cell.row * g.cellHeight + (py - y))
      else target.getPixel px py := by
  intro drawn
  have steps (px py : Nat) (b : Bitmap) (line : Nat) (size : b.size = target.size)
      (hl : line < count) :
      (g.blitLine b cell x y line).size = target.size ∧
        (g.blitLine b cell x y line).getPixel px py =
          if py = y + line ∧ x ≤ px ∧ px < x + g.cellWidth then
            g.picture.getPixel (cell.column * g.cellWidth + (px - x))
              (cell.row * g.cellHeight + (py - y))
          else b.getPixel px py := by
    have room : y + line < b.height := by
      rw [Bitmap.height_of_size size]
      omega
    refine ⟨(g.size_blitLine ..).trans size, ?_⟩
    rw [getPixel_blitLine h here (by omega) (Bitmap.width_of_size size ▸ wide) room]
    by_cases covered : py = y + line ∧ x ≤ px ∧ px < x + g.cellWidth
    · have below : line = py - y := by omega
      rw [if_pos covered, if_pos covered, below]
    · rw [if_neg covered, if_neg covered]
  refine ⟨(Bitmap.getPixel_steps (steps 0 0)).1, fun px py => ?_⟩
  rw [(Bitmap.getPixel_steps (steps px py)).2]
  refine if_congr ⟨?_, ?_⟩ rfl rfl
  · rintro ⟨line, hl, row, left, right⟩
    omega
  · rintro ⟨left, right, above, below⟩
    exact ⟨py - y, by omega⟩

/-- A glyph replaces the rectangle of its cell. -/
theorem getPixel_blitCell (h : g.Accepted) (here : g.cell c = some cell)
    (wide : x + g.cellWidth ≤ target.width) (tall : y + g.cellHeight ≤ target.height) :
    (g.blitCell target cell x y).getPixel px py =
      if x ≤ px ∧ px < x + g.cellWidth ∧ y ≤ py ∧ py < y + g.cellHeight then
        g.picture.getPixel (cell.column * g.cellWidth + (px - x))
          (cell.row * g.cellHeight + (py - y))
      else target.getPixel px py :=
  (getPixel_blitCell_upTo h here wide tall (Nat.le_refl g.cellHeight)).2 px py

/-- The font has a character, and its cell fits in at a place. -/
def Fits (g : GlyphSheet) (target : Bitmap) (c : Char) (x y : Nat) : Prop :=
  (∃ cell, g.cell c = some cell) ∧
    x + g.cellWidth ≤ target.width ∧ y + g.cellHeight ≤ target.height

theorem fits_of_size (same : drawn.size = target.size) :
    g.Fits drawn c x y ↔ g.Fits target c x y := by
  rw [Fits, Fits, Bitmap.width_of_size same, Bitmap.height_of_size same]

/-- Why a character is not drawn at a place: the font does not have it, or its cell passes the
right edge, or else the lower one. -/
def refusal (g : GlyphSheet) (target : Bitmap) (c : Char) (x y : Nat) : Fault :=
  if g.cell c = none then .unknownCharacter c
  else if target.width < x + g.cellWidth then
    .bounds (.glyph .horizontal x c (target.width - g.cellWidth))
  else .bounds (.glyph .vertical y c (target.height - g.cellHeight))

theorem blit_of_not_fits (out : ¬ g.Fits target c x y) :
    g.blit target c x y = .error (g.refusal target c x y) := by
  rw [blit, refusal]
  cases found : g.cell c with
  | none => rfl
  | some cell =>
    dsimp only
    rw [if_neg (Option.some_ne_none cell)]
    split
    · rfl
    next wide =>
      have tall : target.height < y + g.cellHeight := by
        by_contra tall
        exact out ⟨⟨cell, found⟩, Nat.le_of_not_lt wide, Nat.le_of_not_lt tall⟩
      rw [if_pos tall]

theorem refusal_of_size (same : drawn.size = target.size) :
    g.refusal drawn c x y = g.refusal target c x y := by
  rw [refusal, refusal, Bitmap.width_of_size same, Bitmap.height_of_size same]

theorem refusal_of_wide (found : g.cell c = some cell) (wide : target.width < x + g.cellWidth)
    (y : Nat) : g.refusal target c x y =
      .bounds (.glyph .horizontal x c (target.width - g.cellWidth)) := by
  rw [refusal, found, if_neg (Option.some_ne_none cell), if_pos wide]

theorem blit_of_inside (found : g.cell c = some cell) (wide : x + g.cellWidth ≤ target.width)
    (tall : y + g.cellHeight ≤ target.height) :
    g.blit target c x y = .ok (g.blitCell target cell x y, x + g.advance c) := by
  rw [blit, found]
  dsimp only
  rw [if_neg (by omega), if_neg (by omega)]

/-- A glyph is drawn only if there is a cell and it fits in, and then in one way. -/
theorem blit_eq_ok_iff {pen : Nat} :
    g.blit target c x y = .ok (drawn, pen) ↔ ∃ cell, g.cell c = some cell ∧
      (x + g.cellWidth ≤ target.width ∧ y + g.cellHeight ≤ target.height) ∧
      drawn = g.blitCell target cell x y ∧ pen = x + g.advance c := by
  constructor
  · intro drew
    by_cases fits : g.Fits target c x y
    · obtain ⟨⟨cell, found⟩, wide, tall⟩ := fits
      rw [blit_of_inside found wide tall] at drew
      cases drew
      exact ⟨cell, found, ⟨wide, tall⟩, rfl, rfl⟩
    · rw [blit_of_not_fits fits] at drew
      cases drew
  · rintro ⟨cell, found, fits, rfl, rfl⟩
    exact blit_of_inside found fits.1 fits.2

/-- The two reasons why a glyph cannot be drawn. -/
theorem fault_of_blit {fault : Fault} (failed : g.blit target c x y = .error fault) :
    if g.cell c = none then fault = .unknownCharacter c else ∃ cause, fault = .bounds cause := by
  by_cases fits : g.Fits target c x y
  · obtain ⟨⟨cell, found⟩, wide, tall⟩ := fits
    rw [blit_of_inside found wide tall] at failed
    cases failed
  · rw [blit_of_not_fits fits] at failed
    cases failed
    rw [refusal]
    by_cases missing : g.cell c = none
    · rw [if_pos missing, if_pos missing]
    · rw [if_neg missing, if_neg missing]
      split <;> exact ⟨_, rfl⟩

/-- A character that cannot be drawn ends a text where it stands. -/
theorem characters_of_blit_error {fault : Fault} (h : g.blit target c x y = .error fault)
    (rest : List Char) : Drawing.characters g target y x (c :: rest) = (target, some fault) := by
  rw [Drawing.characters, h]

end Blit

/-- A glyph is drawn if and only if the font has the character and its cell fits in whole.
It then replaces the rectangle of the cell by the cell's pixels on the sheet, wherever the
rectangle starts and wherever the cell does, and leaves every other pixel; the pen moves by
the advance. A glyph that cannot be drawn leaves what it was to be drawn on. -/
theorem blit_pixels {picture : Bitmap} {spec : FontSpec} {g : GlyphSheet}
    (accepted : ofBitmap picture spec = .ok g) (target : Bitmap) (c : Char) (x y : Nat) :
    ((∃ drawn pen, g.blit target c x y = .ok (drawn, pen)) ↔
      (∃ cell, g.cell c = some cell) ∧ x + spec.cellWidth ≤ target.width ∧
        y + spec.cellHeight ≤ target.height) ∧
    (∀ drawn pen, g.blit target c x y = .ok (drawn, pen) →
      pen = x + g.advance c ∧ drawn.size = target.size ∧
      ∃ cell, g.cell c = some cell ∧ (c, cell) ∈ spec.placements ∧
        ∀ px py, drawn.getPixel px py =
          if x ≤ px ∧ px < x + spec.cellWidth ∧ y ≤ py ∧ py < y + spec.cellHeight then
            picture.getPixel (cell.column * spec.cellWidth + (px - x))
              (cell.row * spec.cellHeight + (py - y))
          else target.getPixel px py) ∧
    (∀ fault, g.blit target c x y = .error fault →
      (if g.cell c = none then fault = .unknownCharacter c else ∃ cause, fault = .bounds cause) ∧
      Drawing.characters g target y x [c] = (target, some fault)) := by
  have sound := accepted_of_ofBitmap accepted
  have parts := ofBitmap_eq accepted
  obtain rfl : g.spec = spec := by rw [parts]
  obtain rfl : g.picture = picture := by rw [parts]
  have table : g.cells = g.spec.placements := by rw [parts]
  refine ⟨?_, fun drawn pen drew => ?_, fun fault failed => ?_⟩
  · constructor
    · rintro ⟨drawn, pen, drew⟩
      obtain ⟨cell, found, fits, -⟩ := blit_eq_ok_iff.mp drew
      exact ⟨⟨cell, found⟩, fits⟩
    · rintro ⟨⟨cell, found⟩, wide, tall⟩
      exact ⟨_, _, blit_of_inside found wide tall⟩
  · obtain ⟨cell, found, ⟨wide, tall⟩, rfl, rfl⟩ := blit_eq_ok_iff.mp drew
    obtain ⟨size, pixels⟩ :=
      getPixel_blitCell_upTo sound found wide tall (Nat.le_refl g.cellHeight)
    exact ⟨rfl, size, cell, found, table ▸ mem_of_cell found, pixels⟩
  · exact ⟨fault_of_blit failed, characters_of_blit_error failed []⟩

/-- A glyph of the font's fourth cell, which straddles two bytes of the sheet, at the right
edge of a lit frame. Its cell is dark but for one pixel, and the pixels beside it stay lit;
one column further to the right it does not fit. -/
theorem blit_pixels_edge :
    let spec : FontSpec := ⟨"digits.pbm", ⟨40, 8⟩, 5, 8, 0, 0, ["01234567"]⟩
    let sheet := (Bitmap.dark ⟨40, 8⟩ (by decide)).setPixel 17 6 true
    let frame := (Bitmap.dark ⟨16, 16⟩ (by decide)).fill 0xff
    ∃ g drawn, ofBitmap sheet spec = .ok g ∧ g.blit frame '3' 11 4 = .ok (drawn, 16) ∧
      drawn.getPixel 13 10 = true ∧ drawn.getPixel 14 10 = false ∧ drawn.getPixel 10 10 = true ∧
      ¬ ∃ drawn pen, g.blit frame '3' 12 4 = .ok (drawn, pen) := by
  intro spec sheet frame
  have checked : (ofBitmap sheet spec).isOk = true := by decide +kernel
  have placed : (ofBitmap sheet spec).toOption.bind (·.cell '3') = some ⟨3, 0⟩ := by decide +kernel
  have moved : (ofBitmap sheet spec).toOption.map (·.advance '3') = some 5 := by decide +kernel
  cases made : ofBitmap sheet spec with
  | error fault =>
    rw [made] at checked
    cases checked
  | ok g =>
    rw [made] at placed moved
    have width : frame.width = 16 := by decide +kernel
    have height : frame.height = 16 := by decide +kernel
    obtain ⟨fits, shows, _⟩ := blit_pixels made frame '3' 11 4
    obtain ⟨drawn, pen, drew⟩ :=
      fits.mpr ⟨⟨_, placed⟩, by rw [width]; decide, by rw [height]; decide⟩
    obtain ⟨stop, _, cell, found, _, pixels⟩ := shows drawn pen drew
    cases found.symm.trans placed
    have advance : g.advance '3' = 5 := Option.some.inj moved
    rw [advance] at stop
    subst stop
    refine ⟨g, drawn, rfl, drew, ?_, ?_, ?_, ?_⟩
    · rw [pixels]
      decide +kernel
    · rw [pixels]
      decide +kernel
    · rw [pixels]
      decide +kernel
    · intro drawn
      have narrow := (blit_pixels made frame '3' 12 4).1.mp drawn
      rw [width] at narrow
      exact absurd narrow.2.1 (by decide)

end LcdCompositor.GlyphSheet
