import LcdCompositor.Plugin.EndCard
import LcdCompositor.Proofs.Drawing.Pitch
import LcdCompositor.Proofs.Font.Genuine
import LcdCompositor.Proofs.Screen.Retouch

/-!
# What becomes of the border of the end card

The border is drawn first, and then two texts. The farewell is known and stays away from it. The
product name is centered and may be anything. As long as it leaves a column on each side, the
border is whole. A wider name starts in the first column or reaches the last one, and there its
cells take the place of the border.
-/

namespace LcdCompositor.EndCard

open Bitmap Drawing

/-- The first and last rows and columns of a frame. -/
def OnBorder (px py : Nat) : Prop :=
  px < 160 ∧ py < 48 ∧ (px = 0 ∨ px = 159 ∨ py = 0 ∨ py = 47)

/-- Both texts on a bitmap. -/
def lettering (fonts : Font → Option GlyphSheet) (b : Bitmap) (productName : String) : Bitmap :=
  inscribe (fonts .bold16x16) (inscribe (fonts .mono6x8) b productName (-1) productRow) farewell
    (-1) farewellRow

/-- Where the cells of a name stand that is centered on the panel. -/
def namePen (g : GlyphSheet) (name : String) (i : Nat) : Nat :=
  penAt g ((160 - g.textWidth name) / 2) name.toList i

/-- The rectangle of the farewell. -/
def InFarewell (px py : Nat) : Prop := 59 ≤ px ∧ px < 103 ∧ 22 ≤ py ∧ py < 38

/-- A card with so many characters of a name on the border, and then the farewell. -/
structure NameDrawn (g : GlyphSheet) (name : String) (bordered named card : Bitmap)
    (count : Nat) : Prop where
  panel : bordered.size = Panel.size
  border : ∀ px py, OnBorder px py → bordered.getPixel px py = true
  longest : LongestFit g bordered name.toList ((160 - g.textWidth name) / 2) 10 count
  shown : Lettered g bordered named name.toList ((160 - g.textWidth name) / 2) 10 count
  rest : ChangesOnly InFarewell named card

variable {fonts : Font → Option GlyphSheet} {sheet b : Bitmap} {g : GlyphSheet}

theorem size_border (b : Bitmap) : (border b).size = b.size := size_paintWhere ..

theorem border_lit {px py : Nat} (edge : OnBorder px py) :
    (border blankFrame).getPixel px py = true := by
  obtain ⟨wide, tall, side⟩ := edge
  have painted := paintWhere_paints blankFrame
    (fun x y => (Rectangle.ofSize Panel.size).onEdge x y) true
  apply painted.inside
  refine ⟨wide, tall, onEdge_ofSize.mpr ⟨⟨wide, tall⟩, ?_⟩⟩
  have width : Panel.size.width.toNat = 160 := rfl
  have height : Panel.size.height.toNat = 48 := rfl
  omega

/-- The card is the border with the texts on it. -/
theorem setUp_eq (setting : Setting) (studio : Studio) :
    (setUp setting ⟨Screen.new identity .normal, studio⟩).2 = none ∧
      (setUp setting ⟨Screen.new identity .normal, studio⟩).1.screen.frames =
        [⟨lettering studio.answers (border blankFrame) setting.productName, 0⟩] := by
  have added := (Screen.new identity .normal).picture_last_append ⟨blankFrame, 0⟩
  have bordered := Screen.draw_of_ok (f := fun picture => .ok (border picture)) added rfl
  rw [Screen.setPicture_last_append] at bordered
  rw [setUp, Screen.addBlank, Screen.addFrame_of_size _ _ rfl]
  dsimp only
  rw [bordered]
  dsimp only
  refine ⟨rfl, ?_⟩
  let card : Scene :=
    ⟨{ Screen.new identity .normal with frames := [⟨border blankFrame, 0⟩] }, studio⟩
  have named := Scene.screen_write_last card (s := Screen.new identity .normal) rfl .mono6x8
    setting.productName (-1) productRow
  have written := Scene.screen_write_last _ named .bold16x16 farewell (-1) farewellRow
  rw [Scene.answers_write] at written
  exact congrArg Screen.frames written

/-- The farewell stands in the middle of its rows. -/
theorem farewell_changesOnly (genuine : GenuineSheets fonts) (panel : b.size = Panel.size) :
    ChangesOnly InFarewell b (inscribe (fonts .bold16x16) b farewell (-1) farewellRow) := by
  cases found : fonts .bold16x16 with
  | none => exact .refl _ b
  | some g =>
    obtain ⟨picture, made⟩ := genuine .bold16x16 g found
    obtain ⟨width, height, even⟩ := GlyphSheet.bold16x16_geometry made
    have middle : 59 = startAt (-1) (g.centeredX farewell b.width) := by
      rw [startAt_of_neg (by decide), GlyphSheet.centeredX, ← String.ofList_toList (s := farewell),
        GlyphSheet.textWidth_of_pitch even, width_of_panel panel]
      decide
    obtain ⟨count, longest, -, drawn⟩ := text_lettered (GlyphSheet.accepted_of_ofBitmap made)
      (x := -1) (y := farewellRow) (by decide) (by decide) b farewell middle (rfl : 22 = _)
    refine drawn.changesOnly.mono ?_
    rintro px py ⟨i, inside, left, right, above, below⟩
    have three : i < 3 := Nat.lt_of_lt_of_le inside longest.inside
    rw [longest.penAt_eq even inside] at left right
    rw [width] at right
    rw [height] at below
    exact ⟨by omega, by omega, above, below⟩

theorem OnBorder.not_inFarewell {px py : Nat} (edge : OnBorder px py) : ¬ InFarewell px py := by
  obtain ⟨-, -, side⟩ := edge
  rintro ⟨left, right, above, below⟩
  omega

namespace NameDrawn

variable {name : String} {bordered named card : Bitmap} {count i r px py : Nat} {c : Char}
  {cell : Cell}

/-- The border is lit where no cell of the name is. -/
theorem lit (h : NameDrawn g name bordered named card count) (edge : OnBorder px py)
    (bare : ∀ i < count, ¬ g.Covers (namePen g name i) 10 px py) :
    card.getPixel px py = true := by
  rw [h.rest.outside edge.not_inFarewell, h.shown.uncovered bare]
  exact h.border px py edge

section Geometry

variable (h : NameDrawn g name bordered named card count)
  (made : GlyphSheet.ofBitmap sheet Font.mono6x8.spec = .ok g)
include h made

/-- A cell that is drawn ends inside the frame. -/
theorem pen_le (inside : i < count) : namePen g name i ≤ 154 := by
  obtain ⟨c, -, -, wide, -⟩ := h.longest.exists_fits inside
  rw [(GlyphSheet.mono6x8_geometry made).1, width_of_panel h.panel] at wide
  exact Nat.le_of_add_le_add_right wide

/-- A cell on the border starts in the first column or ends in the last one. -/
theorem pen_of_covers (edge : OnBorder px py) (inside : i < count)
    (covers : g.Covers (namePen g name i) 10 px py) :
    namePen g name i = 0 ∨ namePen g name i = 154 := by
  obtain ⟨width, height, -⟩ := GlyphSheet.mono6x8_geometry made
  obtain ⟨-, -, side⟩ := edge
  obtain ⟨left, right, above, below⟩ := covers
  have fits := h.pen_le made inside
  rw [width] at right
  rw [height] at below
  omega

/-- A name that is narrower than the frame by three columns leaves one on each side. -/
theorem apart_of_narrow (narrow : g.textWidth name ≤ 157) (inside : i < count) :
    namePen g name i ≠ 0 ∧ namePen g name i ≠ 154 := by
  obtain ⟨c, here, -, wide, -⟩ := h.longest.exists_fits inside
  have next := penAt_succ here wide
  have advance := (GlyphSheet.mono6x8_geometry made).2.2 c
  have last := penAt_le_end g ((160 - g.textWidth name) / 2) name.toList (i + 1)
  rw [String.ofList_toList] at last
  have first : (160 - g.textWidth name) / 2 ≤ namePen g name i := Nat.le_add_right ..
  rw [namePen] at first ⊢
  omega

theorem covered_left (inside : i < count) (here : name.toList[i]? = some c)
    (found : g.cell c = some cell) (start : namePen g name i = 0) (hr : r < 8) :
    card.getPixel 0 (10 + r) = g.picture.getPixel (cell.column * 6) (cell.row * 8 + r) := by
  obtain ⟨width, height, advance⟩ := GlyphSheet.mono6x8_geometry made
  have edge : OnBorder 0 (10 + r) := ⟨by decide, by omega, .inl rfl⟩
  have advanced := advance c
  have covers : g.Covers (namePen g name i) 10 0 (10 + r) := by
    rw [GlyphSheet.Covers, start, width, height]
    omega
  have shown := h.shown.shows_cell h.longest inside here found covers
    (by rw [← namePen, start]; omega)
  rw [h.rest.outside edge.not_inFarewell, shown, ← namePen, start, width, height, Nat.sub_zero,
    Nat.add_zero, Nat.add_sub_cancel_left]

theorem covered_right (inside : i < count) (here : name.toList[i]? = some c)
    (found : g.cell c = some cell) (start : namePen g name i = 154) (hr : r < 8) :
    card.getPixel 159 (10 + r) =
      g.picture.getPixel (cell.column * 6 + 5) (cell.row * 8 + r) := by
  obtain ⟨width, height, advance⟩ := GlyphSheet.mono6x8_geometry made
  have edge : OnBorder 159 (10 + r) := ⟨by decide, by omega, .inr (.inl rfl)⟩
  -- A further cell would have to start behind column 154.
  have alone : ∀ j, i < j → j < count → ¬ g.Covers (namePen g name j) 10 159 (10 + r) := by
    intro j behind drawn
    have next := h.longest.penAt_add_advance_le inside here behind
    have fits := h.pen_le made drawn
    have advanced := advance c
    rw [namePen] at start fits
    omega
  have covers : g.Covers (namePen g name i) 10 159 (10 + r) := by
    rw [GlyphSheet.Covers, start, width, height]
    omega
  have shown := h.shown.covered inside here found covers alone
  rw [h.rest.outside edge.not_inFarewell, shown, ← namePen, start, width, height,
    Nat.add_sub_cancel_left]

end Geometry

end NameDrawn

section Lettering

variable {name : String} {px py : Nat} (genuine : GenuineSheets fonts)
include genuine

/-- Without the font of the name the border is whole. -/
theorem lettering_bare (missing : fonts .mono6x8 = none) (edge : OnBorder px py) :
    (lettering fonts (border blankFrame) name).getPixel px py = true := by
  have drawn := farewell_changesOnly genuine (size_border blankFrame)
  rw [lettering, missing]
  exact (drawn.outside edge.not_inFarewell).trans (border_lit edge)

/-- The card of a studio that has the font of the name. -/
theorem lettering_drawn (found : fonts .mono6x8 = some g) (name : String) :
    ∃ named count, NameDrawn g name (border blankFrame) named
      (lettering fonts (border blankFrame) name) count := by
  have panel : (border blankFrame).size = Panel.size := size_border blankFrame
  obtain ⟨picture, made⟩ := genuine .mono6x8 g found
  have start : (160 - g.textWidth name) / 2 =
      startAt (-1) (g.centeredX name (border blankFrame).width) := by
    rw [startAt_of_neg (by decide), GlyphSheet.centeredX, width_of_panel panel]
  obtain ⟨count, longest, -, shown⟩ := text_lettered (GlyphSheet.accepted_of_ofBitmap made)
    (x := -1) (y := productRow) (by decide) (by decide) (border blankFrame) name start
    (rfl : 10 = _)
  refine ⟨_, count, panel, fun _ _ => border_lit, longest, shown, ?_⟩
  rw [lettering, found]
  exact farewell_changesOnly genuine (shown.size.trans panel)

end Lettering

/-- The border of the card is lit in every row off the product name, and in all rows if there is no
font for the name or the name leaves a column on each side, as one does that measures at most 157.
Where a cell of the name starts in the first column or ends in the last one, the card shows this
cell instead of the border; the first cell of a name that measures 159 or more does. -/
theorem border_pixels {setting : Setting} {studio : Studio} (genuine : studio.fonts.Genuine) :
    let name := setting.productName
    (setUp setting ⟨Screen.new identity .normal, studio⟩).2 = none ∧
      ∃ card,
        (setUp setting ⟨Screen.new identity .normal, studio⟩).1.screen.frames = [⟨card, 0⟩] ∧
        (∀ px py, OnBorder px py → py < 10 ∨ 18 ≤ py → card.getPixel px py = true) ∧
        (studio.answers .mono6x8 = none →
          ∀ px py, OnBorder px py → card.getPixel px py = true) ∧
        ∀ g, studio.answers .mono6x8 = some g → ∃ bordered named count,
          NameDrawn g name bordered named card count ∧
          (g.textWidth name ≤ 157 ∨ (∀ i < count, namePen g name i ≠ 0 ∧ namePen g name i ≠ 154) →
            ∀ px py, OnBorder px py → card.getPixel px py = true) ∧
          (159 ≤ g.textWidth name → namePen g name 0 = 0) ∧
          ∀ i c cell, i < count → name.toList[i]? = some c → g.cell c = some cell → ∀ r < 8,
            (namePen g name i = 0 → card.getPixel 0 (10 + r) =
              g.picture.getPixel (cell.column * 6) (cell.row * 8 + r)) ∧
            (namePen g name i = 154 → card.getPixel 159 (10 + r) =
              g.picture.getPixel (cell.column * 6 + 5) (cell.row * 8 + r)) := by
  intro name
  have sheets := Studio.genuine_answers genuine
  obtain ⟨done, frames⟩ := setUp_eq setting studio
  refine ⟨done, _, frames, ?rows, fun missing px py => lettering_bare sheets missing,
    fun g found => ?name⟩
  case rows =>
    intro px py edge off
    cases found : studio.answers .mono6x8 with
    | none => exact lettering_bare sheets found edge
    | some g =>
      obtain ⟨picture, made⟩ := sheets .mono6x8 g found
      obtain ⟨named, count, drawn⟩ := lettering_drawn sheets found name
      apply drawn.lit edge
      rintro i - ⟨-, -, above, below⟩
      rw [(GlyphSheet.mono6x8_geometry made).2.1] at below
      omega
  case name =>
    obtain ⟨picture, made⟩ := sheets .mono6x8 g found
    obtain ⟨named, count, drawn⟩ := lettering_drawn sheets found name
    refine ⟨_, named, count, drawn, ?whole, ?wide, ?covered⟩
    case whole =>
      intro apart px py edge
      apply drawn.lit edge
      intro i inside covers
      have free : namePen g name i ≠ 0 ∧ namePen g name i ≠ 154 := by
        rcases apart with narrow | apart
        · exact drawn.apart_of_narrow made narrow inside
        · exact apart i inside
      rcases drawn.pen_of_covers made edge inside covers with first | last
      · exact free.1 first
      · exact free.2 last
    case wide =>
      intro wide
      have margin : (160 - g.textWidth name) / 2 = 0 := by omega
      rw [namePen, margin]
      rfl
    case covered =>
      intro i c cell inside here placed r hr
      exact ⟨fun start => drawn.covered_left made inside here placed start hr,
        fun start => drawn.covered_right made inside here placed start hr⟩

/-- A name that measures 157, with a blank sheet. -/
theorem border_pixels_narrow :
    let sheet := Bitmap.dark ⟨96, 48⟩ (by decide)
    let g : GlyphSheet := ⟨Font.mono6x8.spec, sheet, Font.mono6x8.spec.placements⟩
    let studio : Studio := ⟨FileTree.empty, (FontCache.empty "").insert .mono6x8 g, []⟩
    let setting : Setting := ⟨"", "MMabcdefghijklabcdefghijklabcde"⟩
    studio.fonts.Genuine ∧ g.textWidth setting.productName = 157 ∧
      ∃ card,
        (setUp setting ⟨Screen.new identity .normal, studio⟩).1.screen.frames = [⟨card, 0⟩] ∧
        ∀ px py, OnBorder px py → card.getPixel px py = true := by
  intro sheet g studio setting
  have made : GlyphSheet.ofBitmap sheet Font.mono6x8.spec = .ok g :=
    GlyphSheet.ofBitmap_of_isOk (by decide +kernel)
  have genuine : studio.fonts.Genuine := (FontCache.genuine_empty "").insert made
  have narrow : g.textWidth setting.productName = 157 := by decide +kernel
  obtain ⟨-, card, frames, -, -, named⟩ := @border_pixels setting studio genuine
  obtain ⟨_, _, _, -, whole, -⟩ := named g rfl
  exact ⟨genuine, narrow, card, frames, whole (.inl narrow.le)⟩

/-- A name of thirty-two letters is as wide as the panel, and its first cell puts the border
out. -/
theorem border_overwritten :
    let sheet := Bitmap.dark ⟨96, 48⟩ (by decide)
    let g : GlyphSheet := ⟨Font.mono6x8.spec, sheet, Font.mono6x8.spec.placements⟩
    let studio : Studio := ⟨FileTree.empty, (FontCache.empty "").insert .mono6x8 g, []⟩
    let setting : Setting := ⟨"", "abcdefghijklabcdefghijklabcdefgh"⟩
    studio.fonts.Genuine ∧
      ∃ card,
        (setUp setting ⟨Screen.new identity .normal, studio⟩).1.screen.frames = [⟨card, 0⟩] ∧
        ∀ r < 8, OnBorder 0 (10 + r) ∧ card.getPixel 0 (10 + r) = false := by
  intro sheet g studio setting
  have made : GlyphSheet.ofBitmap sheet Font.mono6x8.spec = .ok g :=
    GlyphSheet.ofBitmap_of_isOk (by decide +kernel)
  have genuine : studio.fonts.Genuine := (FontCache.genuine_empty "").insert made
  have letter : g.cell 'a' = some ⟨10, 1⟩ := by decide +kernel
  have here : setting.productName.toList[0]? = some 'a' := by decide +kernel
  have start : namePen g setting.productName 0 = 0 := by decide +kernel
  have dark : ∀ r < 8, sheet.getPixel (10 * 6) (1 * 8 + r) = false := by decide +kernel
  obtain ⟨named, count, drawn⟩ := lettering_drawn (Studio.genuine_answers genuine)
    (rfl : studio.answers .mono6x8 = some g) setting.productName
  have some : 0 < count := by
    by_contra none
    obtain rfl : count = 0 := by omega
    refine drawn.longest.stuck 'a' here ⟨⟨_, letter⟩, ?wide, ?tall⟩
    case wide =>
      rw [← namePen, start, width_of_panel drawn.panel]
      decide
    case tall =>
      rw [height_of_panel drawn.panel]
      decide
  refine ⟨genuine, _, (setUp_eq setting studio).2, fun r hr => ⟨?edge, ?out⟩⟩
  case edge => exact ⟨by decide, by omega, .inl rfl⟩
  case out =>
    rw [drawn.covered_left made some here letter start hr]
    exact dark r hr

end LcdCompositor.EndCard
