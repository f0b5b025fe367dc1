import LcdCompositor.Font
import LcdCompositor.Proofs.Drawing.Text

/-!
# When a centered text is drawn whole

A text is as wide as its advances, but a character is drawn only where its whole cell fits. A
font with shifts has cells wider than their advance, and the cell of the last character then
hangs over the end of the text. A centered text has a margin on its right; it is drawn whole
if and only if what hangs over fits in there. The characters before the last one need not be
looked at, since their cells start further to the left.
-/

namespace LcdCompositor

namespace GlyphSheet

theorem textWidth_le_limit (g : GlyphSheet) (chars : List Char) :
    g.textWidth (String.ofList chars) ≤ widthLimit := by
  rcases List.eq_nil_or_concat chars with rfl | ⟨front, c, rfl⟩
  · exact Nat.zero_le _
  · rw [List.concat_eq_append, g.textWidth_concat]
    exact Nat.min_le_right _ _

/-- A text is no narrower than what it begins with. -/
theorem textWidth_le_append (g : GlyphSheet) (front back : List Char) :
    g.textWidth (String.ofList front) ≤ g.textWidth (String.ofList (front ++ back)) := by
  induction back generalizing front with
  | nil => rw [List.append_nil]
  | cons c back ih =>
    have longer := ih (front ++ [c])
    have limit := g.textWidth_le_limit front
    rw [g.textWidth_concat, List.append_assoc, List.singleton_append] at longer
    omega

end GlyphSheet

namespace Drawing

variable {g : GlyphSheet} {target : Bitmap} {chars : List Char} {c : Char}
  {s : String} {left top count : Nat}

/-- The pen never moves back. -/
theorem penAt_le_penAt (g : GlyphSheet) (left : Nat) (chars : List Char) {i j : Nat}
    (h : i ≤ j) : penAt g left chars i ≤ penAt g left chars j := by
  have split := List.take_append_drop i (chars.take j)
  rw [List.take_take, Nat.min_eq_left h] at split
  rw [penAt, penAt, ← split]
  exact Nat.add_le_add_left (g.textWidth_le_append _ _) left

/-- Nor does it pass the end of the text. -/
theorem penAt_le_end (g : GlyphSheet) (left : Nat) (chars : List Char) (i : Nat) :
    penAt g left chars i ≤ left + g.textWidth (String.ofList chars) := by
  have shorter := g.textWidth_le_append (chars.take i) (chars.drop i)
  rw [List.take_append_drop] at shorter
  exact Nat.add_le_add_left shorter left

/-- If a row of a text is as high as the frame and the font has its characters, a character
that does not fit is too far to the right. -/
theorem LongestFit.wide (longest : LongestFit g target chars left top count)
    (known : ∀ c ∈ chars, ∃ cell, g.cell c = some cell) (tall : top + g.cellHeight ≤ target.height)
    (here : chars[count]? = some c) :
    target.width < penAt g left chars count + g.cellWidth := by
  by_contra narrow
  exact longest.stuck c here
    ⟨known c (List.mem_of_getElem? here), Nat.le_of_not_lt narrow, tall⟩

/-- If the cell of the last character fits, so do all. -/
theorem LongestFit.whole_iff_last (longest : LongestFit g target chars left top count)
    (known : ∀ c ∈ chars, ∃ cell, g.cell c = some cell)
    (tall : top + g.cellHeight ≤ target.height) (last : chars.getLast? = some c) :
    count = chars.length ↔
      penAt g left chars (chars.length - 1) + g.cellWidth ≤ target.width := by
  have here : chars[chars.length - 1]? = some c := List.getLast?_eq_getElem?.symm.trans last
  have size : chars.length - 1 < chars.length := (List.getElem?_eq_some_iff.mp here).1
  constructor
  · rintro rfl
    exact (longest.fitting (chars.length - 1) size c here).2.1
  · intro fits
    by_contra short
    have inside : count < chars.length := Nat.lt_of_le_of_ne longest.inside short
    have wide := longest.wide known tall (List.getElem?_eq_getElem inside)
    have earlier : penAt g left chars count ≤ penAt g left chars (chars.length - 1) :=
      penAt_le_penAt g left chars (by omega)
    omega

/-- The cell of the last character fits if and only if the margin behind a centered text holds
what the cell has beyond the advance. -/
theorem last_fits_iff (narrow : g.textWidth s ≤ target.width)
    (last : s.toList.getLast? = some c) :
    penAt g (g.centeredX s target.width) s.toList (s.toList.length - 1) + g.cellWidth ≤
        target.width ↔
      g.cellWidth - g.advance c ≤
        target.width - g.textWidth s - g.centeredX s target.width := by
  obtain ⟨front, split⟩ := List.getLast?_eq_some_iff.mp last
  have pen : penAt g (g.centeredX s target.width) s.toList (s.toList.length - 1) =
      g.centeredX s target.width + g.textWidth (String.ofList front) := by
    rw [penAt, split, List.length_append, List.length_singleton, Nat.add_sub_cancel,
      List.take_left]
  have measured : g.textWidth s =
      min (g.textWidth (String.ofList front) + g.advance c) GlyphSheet.widthLimit := by
    rw [← g.textWidth_concat, ← split, String.ofList_toList]
  have limit := GlyphSheet.width_lt_limit target
  rw [pen, GlyphSheet.centeredX]
  omega

/-- A centered text that measures no wider than the frame is drawn whole if and only if the
margin behind it holds what the cell of its last character has beyond the advance. If it is
not drawn whole, then a cell passes the right edge. -/
theorem text_centered_whole {picture : Bitmap} {spec : FontSpec} {g : GlyphSheet}
    (accepted : GlyphSheet.ofBitmap picture spec = .ok g) (target : Bitmap) (s : String)
    (tall : spec.cellHeight ≤ target.height) (known : ∀ c ∈ s.toList, g.has c = true)
    (narrow : g.textWidth s ≤ target.width) :
    ((text g target s (-1) (-1)).2 = none ↔ ∀ c, s.toList.getLast? = some c →
      spec.cellWidth - g.advance c ≤
        target.width - g.textWidth s - g.centeredX s target.width) ∧
    (∀ fault, (text g target s (-1) (-1)).2 = some fault →
      ∃ c ∈ s.toList, ∃ x, target.width < x + spec.cellWidth ∧
        fault = .bounds (.glyph .horizontal x c (target.width - spec.cellWidth))) := by
  obtain rfl : g.spec = spec := by rw [GlyphSheet.ofBitmap_eq accepted]
  have cells : ∀ c ∈ s.toList, ∃ cell, g.cell c = some cell :=
    fun c inside => Option.isSome_iff_exists.mp (known c inside)
  have negative : (-1 : Int) ≤ 65535 := by decide
  obtain ⟨k, longest, reason, -⟩ := text_lettered (GlyphSheet.accepted_of_ofBitmap accepted)
    negative negative target s (rfl : g.centeredX s target.width = _)
    (rfl : g.centeredY target.height = _)
  have below : g.centeredY target.height + g.cellHeight ≤ target.height := by
    change g.cellHeight ≤ target.height at tall
    rw [GlyphSheet.centeredY]
    omega
  constructor
  · rw [longest.whole_iff reason]
    cases last : s.toList.getLast? with
    | none =>
      rw [List.getLast?_eq_none_iff] at last
      have nothing : k = s.toList.length := by
        have inside := longest.inside
        rw [last, List.length_nil] at inside ⊢
        exact Nat.le_zero.mp inside
      simp only [nothing, reduceCtorEq, false_implies, implies_true]
    | some c =>
      rw [longest.whole_iff_last cells below last, last_fits_iff narrow last]
      simp only [Option.some.injEq, forall_eq']
      rfl
  · intro fault failed
    rw [reason, Option.map_eq_some_iff] at failed
    obtain ⟨c, here, rfl⟩ := failed
    have wide := longest.wide cells below here
    obtain ⟨cell, found⟩ := cells c (List.mem_of_getElem? here)
    exact ⟨c, List.mem_of_getElem? here, _, wide, GlyphSheet.refusal_of_wide found wide _⟩

/-- A condensed text with its widest letter at the end fills a frame to the last column. -/
theorem text_centered_whole_wide :
    let sheet := Bitmap.dark ⟨96, 48⟩ (by decide)
    let frame := Bitmap.dark ⟨16, 8⟩ (by decide)
    let g : GlyphSheet := ⟨Font.mono6x8.spec, sheet, Font.mono6x8.spec.placements⟩
    GlyphSheet.ofBitmap sheet Font.mono6x8.spec = .ok g ∧ g.textWidth "aaM" = frame.width ∧
      (text g frame "aaM" (-1) (-1)).2 = none := by
  intro sheet frame g
  have made : GlyphSheet.ofBitmap sheet Font.mono6x8.spec = .ok g :=
    GlyphSheet.ofBitmap_of_isOk (by decide +kernel)
  have known : "aaM".toList.all g.has = true := by decide +kernel
  have measured : g.textWidth "aaM" = frame.width := by decide +kernel
  have whole := text_centered_whole made frame "aaM" (by decide +kernel)
    (List.all_eq_true.mp known) measured.le
  refine ⟨made, measured, whole.1.mpr fun c last => ?_⟩
  obtain rfl : 'M' = c := Option.some.inj last
  decide +kernel

/-- With the same letters in another order the text measures the same, and the cell of the
last one does not fit. -/
theorem text_centered_cut :
    let sheet := Bitmap.dark ⟨96, 48⟩ (by decide)
    let frame := Bitmap.dark ⟨16, 8⟩ (by decide)
    let g : GlyphSheet := ⟨Font.mono6x8.spec, sheet, Font.mono6x8.spec.placements⟩
    GlyphSheet.ofBitmap sheet Font.mono6x8.spec = .ok g ∧ g.cellHeight ≤ frame.height ∧
      g.cellWidth ≤ frame.width ∧ (∀ c ∈ "Maa".toList, g.has c = true) ∧
      g.textWidth "Maa" ≤ frame.width ∧
      (text g frame "Maa" (-1) (-1)).2 = some (.bounds (.glyph .horizontal 11 'a' 10)) := by
  intro sheet frame g
  have known : "Maa".toList.all g.has = true := by decide +kernel
  exact ⟨GlyphSheet.ofBitmap_of_isOk (by decide +kernel), by decide +kernel, by decide +kernel,
    List.all_eq_true.mp known, by decide +kernel, by decide +kernel⟩

end Drawing

end LcdCompositor
