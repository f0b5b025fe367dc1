import LcdCompositor.Proofs.GlyphSheet.Blit

/-!
# What a text leaves on a frame

A text is drawn up to the first of its characters that cannot be drawn, each one with the pen
as far behind the start as the characters before it are wide. Cells may overlap, because a
font can take more off the advance than the cells have blank columns; a pixel then shows the
last of the cells that cover it. `Lettered` says this of the first characters of a text, one
more character keeps it, and so what is left of a text is known for any number of them.

Widths are only told apart up to a limit. The limit does not show in what is drawn, since a
character that fits ends before it.
-/

namespace LcdCompositor

namespace GlyphSheet

theorem advance_le (g : GlyphSheet) (c : Char) : g.advance c ≤ g.cellWidth := by
  unfold advance
  dsimp only
  split <;> omega

/-- Frames fill whole bytes, so none is as wide as the limit. -/
theorem width_lt_limit (target : Bitmap) : target.width < widthLimit := by
  have small : target.width < 65536 := target.size.width.toNat_lt
  have bytes : target.width % 8 = 0 := target.aligned
  rw [widthLimit]
  omega

/-- A character makes a text wider by its advance, up to the limit. -/
theorem textWidth_concat (g : GlyphSheet) (chars : List Char) (c : Char) :
    g.textWidth (String.ofList (chars ++ [c])) =
      min (g.textWidth (String.ofList chars) + g.advance c) widthLimit := by
  simp only [textWidth, String.toList_ofList, List.foldl_append, List.foldl_cons, List.foldl_nil]

/-- Whether the cell of a character drawn at `(x, y)` covers a pixel. -/
def Covers (g : GlyphSheet) (x y px py : Nat) : Prop :=
  x ≤ px ∧ px < x + g.cellWidth ∧ y ≤ py ∧ py < y + g.cellHeight

instance (g : GlyphSheet) (x y px py : Nat) : Decidable (g.Covers x y px py) :=
  inferInstanceAs (Decidable (_ ∧ _ ∧ _ ∧ _))

end GlyphSheet

namespace Drawing

variable {g : GlyphSheet} {target drawn : Bitmap} {chars rest : List Char} {c : Char}
  {cell : Cell} {left top i count : Nat}

/-- Where the pen stands in front of a character of a text. -/
def penAt (g : GlyphSheet) (left : Nat) (chars : List Char) (i : Nat) : Nat :=
  left + g.textWidth (String.ofList (chars.take i))

/-- A character that fits moves the pen by its whole advance. -/
theorem penAt_succ (here : chars[i]? = some c)
    (wide : penAt g left chars i + g.cellWidth ≤ target.width) :
    penAt g left chars (i + 1) = penAt g left chars i + g.advance c := by
  have limit := GlyphSheet.width_lt_limit target
  have advance := g.advance_le c
  rw [penAt] at wide ⊢
  rw [List.take_add_one, here, Option.toList_some, g.textWidth_concat, penAt]
  omega

/-- What the first characters of a text leave on a frame: a pixel shows the last of their
cells that cover it, and one that none of them covers is as it was. -/
structure Lettered (g : GlyphSheet) (target drawn : Bitmap) (chars : List Char)
    (left top count : Nat) : Prop where
  size : drawn.size = target.size
  covered : ∀ {px py i : Nat} {c : Char} {cell : Cell}, i < count → chars[i]? = some c →
    g.cell c = some cell → g.Covers (penAt g left chars i) top px py →
    (∀ j, i < j → j < count → ¬ g.Covers (penAt g left chars j) top px py) →
    drawn.getPixel px py =
      g.picture.getPixel (cell.column * g.cellWidth + (px - penAt g left chars i))
        (cell.row * g.cellHeight + (py - top))
  uncovered : ∀ {px py : Nat}, (∀ i < count, ¬ g.Covers (penAt g left chars i) top px py) →
    drawn.getPixel px py = target.getPixel px py

theorem lettered_zero (g : GlyphSheet) (target : Bitmap) (chars : List Char) (left top : Nat) :
    Lettered g target target chars left top 0 where
  size := rfl
  covered none := absurd none (Nat.not_lt_zero _)
  uncovered _ := rfl

/-- One more character comes on top of those before it. -/
theorem Lettered.succ (before : Lettered g target drawn chars left top count) (h : g.Accepted)
    (here : chars[count]? = some c) (found : g.cell c = some cell)
    (wide : penAt g left chars count + g.cellWidth ≤ target.width)
    (tall : top + g.cellHeight ≤ target.height) :
    Lettered g target (g.blitCell drawn cell (penAt g left chars count) top) chars left top
      (count + 1) := by
  have blitted {px py : Nat} :
      (g.blitCell drawn cell (penAt g left chars count) top).getPixel px py = _ :=
    GlyphSheet.getPixel_blitCell h found
      (Bitmap.width_of_size before.size ▸ wide) (Bitmap.height_of_size before.size ▸ tall)
  constructor
  case size => exact (g.size_blitCell ..).trans before.size
  case covered =>
    intro px py i d place inside there placed covers last
    rw [blitted]
    rcases Nat.lt_succ_iff_lt_or_eq.mp inside with earlier | rfl
    · refine (if_neg (last count earlier (Nat.lt_succ_self count))).trans ?_
      exact before.covered earlier there placed covers
        fun j later short => last j later (Nat.lt_succ_of_lt short)
    · cases here.symm.trans there
      cases found.symm.trans placed
      exact if_pos covers
  case uncovered =>
    intro px py bare
    rw [blitted]
    refine (if_neg (bare count (Nat.lt_succ_self count))).trans ?_
    exact before.uncovered fun i inside => bare i (Nat.lt_succ_of_lt inside)

/-- So many characters of a text fit, each at its pen, and no more in a row. -/
structure LongestFit (g : GlyphSheet) (target : Bitmap) (chars : List Char)
    (left top count : Nat) : Prop where
  inside : count ≤ chars.length
  fitting : ∀ i < count, ∀ c, chars[i]? = some c → g.Fits target c (penAt g left chars i) top
  stuck : ∀ c, chars[count]? = some c → ¬ g.Fits target c (penAt g left chars count) top

theorem LongestFit.exists_fits (longest : LongestFit g target chars left top count)
    (drawn : i < count) :
    ∃ c, chars[i]? = some c ∧ g.Fits target c (penAt g left chars i) top := by
  have here := List.getElem?_eq_getElem (Nat.lt_of_lt_of_le drawn longest.inside)
  exact ⟨_, here, longest.fitting i drawn _ here⟩

/-- There is a reason to stop unless all characters fit. -/
theorem LongestFit.whole_iff {k : Nat} {reason : Option Fault} {why : Char → Fault}
    (longest : LongestFit g target chars left top k) (stopped : reason = (chars[k]?).map why) :
    reason = none ↔ k = chars.length := by
  have inside := longest.inside
  rw [stopped, Option.map_eq_none_iff, List.getElem?_eq_none_iff]
  omega

/-- What is left to be drawn of a text is drawn up to the first character that does not fit. -/
theorem characters_lettered (h : g.Accepted) (before : Lettered g target drawn chars left top i)
    (remaining : chars.drop i = rest) (inside : i ≤ chars.length)
    (fitting : ∀ j < i, ∀ c, chars[j]? = some c →
      g.Fits target c (penAt g left chars j) top) :
    ∃ k, LongestFit g target chars left top k ∧
      (characters g drawn top (penAt g left chars i) rest).2 =
        (chars[k]?).map (fun c => g.refusal target c (penAt g left chars k) top) ∧
      Lettered g target (characters g drawn top (penAt g left chars i) rest).1 chars left top
        k := by
  induction rest generalizing i drawn with
  | nil =>
    have whole : chars[i]? = none := by
      rw [List.getElem?_eq_none_iff]
      exact List.drop_eq_nil_iff.mp remaining
    refine ⟨i, ⟨inside, fitting, ?_⟩, ?_, before⟩
    · intro c here
      rw [whole] at here
      cases here
    · rw [whole]
      rfl
  | cons c rest ih =>
    have here : chars[i]? = some c := by
      rw [← List.head?_drop, remaining, List.head?_cons]
    by_cases fits : g.Fits target c (penAt g left chars i) top
    · obtain ⟨⟨cell, found⟩, wide, tall⟩ := fits
      have drew := GlyphSheet.blit_of_inside found
        (Bitmap.width_of_size before.size ▸ wide) (Bitmap.height_of_size before.size ▸ tall)
      rw [characters, drew, ← penAt_succ here wide]
      refine ih (before.succ h here found wide tall) ?_ ?_ ?_
      · rw [← List.tail_drop, remaining, List.tail_cons]
      · exact (List.getElem?_eq_some_iff.mp here).1
      · intro j short d there
        rcases Nat.lt_succ_iff_lt_or_eq.mp short with earlier | rfl
        · exact fitting j earlier d there
        · cases here.symm.trans there
          exact ⟨⟨cell, found⟩, wide, tall⟩
    · have refused : g.blit drawn c (penAt g left chars i) top =
          .error (g.refusal target c (penAt g left chars i) top) := by
        rw [← GlyphSheet.refusal_of_size before.size]
        exact GlyphSheet.blit_of_not_fits (mt (GlyphSheet.fits_of_size before.size).mp fits)
      rw [GlyphSheet.characters_of_blit_error refused]
      refine ⟨i, ⟨inside, fitting, ?_⟩, ?_, before⟩
      · intro d there
        cases here.symm.trans there
        exact fits
      · rw [here]
        rfl

/-- Where a text starts along one axis, given where the middle is. -/
def startAt (position : Int) (middle : Nat) : Nat :=
  if position < 0 then middle else position.toNat

theorem startAt_of_neg {position : Int} (negative : position < 0) (middle : Nat) :
    startAt position middle = middle := if_pos negative

theorem startAt_natCast (position middle : Nat) : startAt position middle = position :=
  (if_neg (Int.not_lt.mpr (Int.natCast_nonneg position))).trans (Int.toNat_natCast position)

theorem textStart_of_le {position : Int} (inside : position ≤ 65535) (axis : Axis)
    (middle : Nat) : textStart axis position middle = .ok (startAt position middle) := by
  rw [textStart, startAt]
  split
  · rfl
  · rw [if_neg (by omega)]

theorem textStart_of_gt {position : Int} (beyond : 65535 < position) (axis : Axis)
    (middle : Nat) :
    textStart axis position middle = .error (.bounds (.textStart axis position)) := by
  rw [textStart, if_neg (by omega), if_pos beyond]

theorem text_eq {x y : Int} (hx : x ≤ 65535) (hy : y ≤ 65535) (g : GlyphSheet)
    (target : Bitmap) (s : String) :
    text g target s x y =
      characters g target (startAt y (g.centeredY target.height))
        (startAt x (g.centeredX s target.width)) s.toList := by
  rw [text, textStart_of_le hx, textStart_of_le hy]

/-- A text is drawn as far as its characters fit, and no further. -/
theorem text_lettered (h : g.Accepted) {x y : Int} (hx : x ≤ 65535) (hy : y ≤ 65535)
    (target : Bitmap) (s : String) {left top : Nat}
    (hl : left = startAt x (g.centeredX s target.width))
    (ht : top = startAt y (g.centeredY target.height)) :
    ∃ k, LongestFit g target s.toList left top k ∧
      (text g target s x y).2 =
        (s.toList[k]?).map (fun c => g.refusal target c (penAt g left s.toList k) top) ∧
      Lettered g target (text g target s x y).1 s.toList left top k := by
  rw [text_eq hx hy, ← hl, ← ht]
  exact characters_lettered h (lettered_zero g target s.toList left top) List.drop_zero
    (Nat.zero_le _) fun j none => absurd none (Nat.not_lt_zero j)

/-- A text is drawn up to its first character that does not fit, and reports why that one is
not drawn; it is drawn whole if and only if all fit. What it leaves is that every pixel shows
the last of the drawn cells that cover it, or what was there before. A start beyond the
limit is reported, and nothing is drawn. -/
theorem text_prefix {picture : Bitmap} {spec : FontSpec} {g : GlyphSheet}
    (accepted : GlyphSheet.ofBitmap picture spec = .ok g) (target : Bitmap) (s : String)
    (x y : Int) :
    (65535 < x → text g target s x y = (target, some (.bounds (.textStart .horizontal x)))) ∧
    (x ≤ 65535 → 65535 < y →
      text g target s x y = (target, some (.bounds (.textStart .vertical y)))) ∧
    (x ≤ 65535 → y ≤ 65535 → ∀ left top : Nat,
      left = (if x < 0 then g.centeredX s target.width else x.toNat) →
      top = (if y < 0 then g.centeredY target.height else y.toNat) →
      ∃ k, LongestFit g target s.toList left top k ∧
        ((text g target s x y).2 = none ↔ k = s.toList.length) ∧
        (∀ c, s.toList[k]? = some c →
          (text g target s x y).2 =
            some (g.refusal target c (penAt g left s.toList k) top)) ∧
        g.spec = spec ∧ g.picture = picture ∧
        Lettered g target (text g target s x y).1 s.toList left top k) := by
  have parts := GlyphSheet.ofBitmap_eq accepted
  refine ⟨fun beyond => ?_, fun hx beyond => ?_, fun hx hy left top hl ht => ?_⟩
  · rw [text, textStart_of_gt beyond]
  · rw [text, textStart_of_le hx, textStart_of_gt beyond]
  · obtain ⟨k, longest, reason, drawn⟩ :=
      text_lettered (GlyphSheet.accepted_of_ofBitmap accepted) hx hy target s hl ht
    refine ⟨k, longest, longest.whole_iff reason, fun c here => ?_, by rw [parts], by rw [parts],
      drawn⟩
    rw [reason, here]
    rfl

/-- Two condensed letters on a lit frame, whose cells share two columns, and then a character
that the font does not have. In the shared columns the frame shows the second letter: it puts
out a pixel of the first and lights one of its own. -/
theorem text_prefix_overlap :
    let spec : FontSpec := ⟨"letters.pbm", ⟨24, 8⟩, 6, 8, 0, 2, ["abMd"]⟩
    let sheet := ((Bitmap.dark ⟨24, 8⟩ (by decide)).setPixel 4 3 true).setPixel 7 2 true
    let frame := (Bitmap.dark ⟨16, 8⟩ (by decide)).fill 0xff
    let g : GlyphSheet := ⟨spec, sheet, spec.placements⟩
    GlyphSheet.ofBitmap sheet spec = .ok g ∧
      (text g frame "ab?a" 1 0).2 = some (.unknownCharacter '?') ∧
      (text g frame "ab?a" 1 0).1.getPixel 5 3 = false ∧
      (text g frame "ab?a" 1 0).1.getPixel 6 2 = true ∧
      (text g frame "ab?a" 1 0).1.getPixel 4 2 = false ∧
      (text g frame "ab?a" 1 0).1.getPixel 11 2 = true := by
  intro spec sheet frame g
  have made : GlyphSheet.ofBitmap sheet spec = .ok g :=
    GlyphSheet.ofBitmap_of_isOk (by decide +kernel)
  have unknown : g.cell '?' = none := by decide +kernel
  have first : g.cell 'a' = some ⟨0, 0⟩ := by decide +kernel
  have second : g.cell 'b' = some ⟨1, 0⟩ := by decide +kernel
  obtain ⟨-, -, within⟩ := text_prefix made frame "ab?a" 1 0
  obtain ⟨k, longest, -, stopped, -, -, drawn⟩ :=
    within (by decide) (by decide) 1 0 rfl rfl
  have two : k = 2 := by
    have few : k ≤ 2 := by
      by_contra more
      obtain ⟨⟨cell, found⟩, -⟩ := longest.fitting 2 (by omega) '?' rfl
      rw [unknown] at found
      cases found
    have places : k = 0 ∨ k = 1 ∨ k = 2 := by omega
    rcases places with rfl | rfl | rfl
    · exact absurd ⟨⟨_, first⟩, by decide +kernel⟩ (longest.stuck 'a' rfl)
    · exact absurd ⟨⟨_, second⟩, by decide +kernel⟩ (longest.stuck 'b' rfl)
    · rfl
  subst two
  -- The second letter is the last one drawn, so no other is above it.
  have above {px py : Nat} (covers : g.Covers (penAt g 1 "ab?a".toList 1) 0 px py) :=
    drawn.covered (by decide : 1 < 2) (rfl : "ab?a".toList[1]? = some 'b') second covers
      fun j later short => absurd later (Nat.not_lt_of_le (Nat.le_of_lt_succ short))
  have below {px py : Nat} (covers : g.Covers (penAt g 1 "ab?a".toList 0) 0 px py) :=
    drawn.covered (by decide : 0 < 2) (rfl : "ab?a".toList[0]? = some 'a') first covers
  refine ⟨made, ?_, ?_, ?_, ?_, ?_⟩
  · rw [stopped '?' rfl, GlyphSheet.refusal, if_pos unknown]
  · rw [above (by decide +kernel)]
    decide +kernel
  · rw [above (by decide +kernel)]
    decide +kernel
  · refine (below (by decide +kernel) fun j later short => ?_).trans (by decide +kernel)
    obtain rfl : j = 1 := by omega
    decide +kernel
  · rw [drawn.uncovered (by decide +kernel)]
    decide +kernel

end Drawing

end LcdCompositor
