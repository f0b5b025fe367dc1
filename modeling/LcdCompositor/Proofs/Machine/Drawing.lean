import LcdCompositor.Font
import LcdCompositor.Proofs.Bitmap.Plot
import LcdCompositor.Proofs.Drawing.Text
import LcdCompositor.Proofs.Machine.Word

/-!
# Drawing never stops a machine

Every primitive looks at the sizes once, in its own arithmetic, and then loops without looking
again. A loop that keeps the size of the bitmap runs to its end if its step does for every
bitmap of that size, and it comes to what the loop without checks comes to. So a primitive is
settled from the inside: the byte that a pixel is in is there, the bytes of a cell, a bar or a
padlock are those of pixels inside, and the sums and differences on the way stay within what
has been compared. The outcome is one equation for each primitive, which says that the machine
does not stop and that it does what the primitive does.
-/

namespace LcdCompositor.Machine

open Bitmap

section Glyphs

variable {picture target drawn : Bitmap} {spec : FontSpec} {g : GlyphSheet} {cell : Cell}
  {x y line : Nat}

theorem fits_eq (limit size position : Nat) :
    fits limit size position = .ok (decide (position + size ≤ limit)) := by
  rw [fits]
  split
  next small => rw [decide_eq_false (by omega), pure_eq_ok]
  next =>
    have room : position ≤ limit - size ↔ position + size ≤ limit := by omega
    rw [sub_of_le (by omega), ok_bind, pure_eq_ok, decide_eq_decide.mpr room]

variable (made : GlyphSheet.ofBitmap picture spec = .ok g)
include made

/-- A narrow cell is not wider than a byte. -/
theorem cellMask_eq : cellMask g = .ok g.cellMask := by
  rw [cellMask, GlyphSheet.cellMask]
  rcases (GlyphSheet.accepted_of_ofBitmap made).width with five | six | ⟨-, bytes⟩
  · rw [five]
    rfl
  · rw [six]
    rfl
  · rw [if_pos bytes, if_pos bytes, pure_eq_ok]

/-- The shifts leave something of the width of a cell. -/
theorem advance_eq (c : Char) : advance g c = .ok (g.advance c) := by
  obtain ⟨⟨⟨-, -, shifts, -⟩, -⟩, rfl⟩ := GlyphSheet.ofBitmap_eq_ok_iff.mp made
  rw [advance, GlyphSheet.advance, GlyphSheet.cellWidth]
  dsimp only
  rw [sub_of_le (by omega), ok_bind]
  split
  · exact sub_of_le (by omega)
  · rfl

theorem textWidth_eq (text : String) : textWidth g text = .ok (g.textWidth text) := by
  refine foldlM_eq fun sum c _ => ?_
  rw [advance_eq made, ok_bind, pure_eq_ok]

theorem centeredX_eq (text : String) (frameWidth : Nat) :
    centeredX g text frameWidth = .ok (g.centeredX text frameWidth) := by
  rw [centeredX, textWidth_eq made, ok_bind, pure_eq_ok, GlyphSheet.centeredX]

/-- The bytes of a line of a cell are in the rows of a bitmap in which the cell fits. -/
theorem blitLine_eq (wide : x + g.cellWidth ≤ target.width)
    (tall : y + g.cellHeight ≤ target.height) (inside : line < g.cellHeight) :
    blitLine g target cell g.cellMask x y line = .ok (g.blitLine target cell x y line) := by
  have rows := target.height_lt
  rw [blitLine, GlyphSheet.blitLine, add_of_le (by rw [wordLimit]; omega), ok_bind]
  refine foldlM_bitmap (fun b offset => size_stamp ..) fun b same offset member => ?_
  have within : offset < g.cellBytes := List.mem_range.mp member
  have widths := b.width_eq
  have column : (x + 8 * offset) / 8 = x / 8 + offset := by omega
  have shift : (x + 8 * offset) % 8 = x % 8 := by omega
  rw [← column, ← shift]
  refine stamp_eq ?_ ?_
  · rw [← width_of_size same] at wide
    have := (GlyphSheet.accepted_of_ofBitmap made).width
    rw [GlyphSheet.cellBytes] at within
    omega
  · rw [height_of_size same]
    omega

theorem blitCell_eq (wide : x + g.cellWidth ≤ target.width)
    (tall : y + g.cellHeight ≤ target.height) :
    blitCell g target cell x y = .ok (g.blitCell target cell x y) := by
  rw [blitCell, cellMask_eq made, ok_bind]
  refine foldlM_bitmap (fun b line => GlyphSheet.size_blitLine ..) fun b same line member => ?_
  rw [← width_of_size same] at wide
  rw [← height_of_size same] at tall
  exact blitLine_eq made wide tall (List.mem_range.mp member)

theorem blit_eq (target : Bitmap) (c : Char) (x y : Nat) :
    blit g target c x y = .ok (g.blit target c x y) := by
  rw [blit, GlyphSheet.blit]
  cases g.cell c with
  | none => rfl
  | some cell =>
    simp only [fits_eq, ok_bind, pure_eq_ok, Bool.not_eq_true', decide_eq_false_iff_not, not_le]
    split
    next => rfl
    next wide =>
      split
      next => rfl
      next tall =>
        have columns := target.width_lt
        have pen := g.advance_le c
        rw [blitCell_eq made (Nat.le_of_not_lt wide) (Nat.le_of_not_lt tall), ok_bind,
          advance_eq made, ok_bind, add_of_le (by rw [wordLimit]; omega), ok_bind]

theorem characters_eq (target : Bitmap) (y x : Nat) (chars : List Char) :
    characters g target y x chars = .ok (Drawing.characters g target y x chars) := by
  induction chars generalizing target x with
  | nil => rfl
  | cons c rest ih =>
    rw [characters, Drawing.characters, blit_eq made, ok_bind]
    cases g.blit target c x y with
    | error fault => rfl
    | ok after => exact ih after.1 after.2

omit made in
theorem textStart_eq (axis : Axis) (position : Int) {middle : Machine Nat} {value : Nat}
    (runs : middle = .ok value) :
    textStart axis position middle = .ok (Drawing.textStart axis position value) := by
  rw [textStart, Drawing.textStart, Drawing.textStart]
  split
  next => rw [runs, ok_bind, pure_eq_ok]
  next => rw [pure_eq_ok]

theorem text_eq (target : Bitmap) (s : String) (x y : Int) :
    text g target s x y = .ok (Drawing.text g target s x y) := by
  rw [text, Drawing.text, textStart_eq _ x (centeredX_eq made s target.width), ok_bind]
  cases Drawing.textStart .horizontal x (g.centeredX s target.width) with
  | error fault => rfl
  | ok left =>
    dsimp only
    rw [textStart_eq _ y (pure_eq_ok _), ok_bind]
    cases Drawing.textStart .vertical y (g.centeredY target.height) with
    | error fault => rfl
    | ok top => exact characters_eq made target top left s.toList

end Glyphs

section Shapes

open Drawing

variable {target : Bitmap} {x y : Nat}

/-- The rows of a padlock start in a byte of their rows. -/
theorem padlockRows_eq {rows : List UInt8} (inside : x / 8 < target.stride)
    (below : y + rows.length ≤ target.height) :
    padlockRows target x y rows = .ok (Drawing.padlockRows target x y rows) := by
  induction rows generalizing target y with
  | nil => rfl
  | cons glyph rest ih =>
    rw [List.length_cons] at below
    have same := target.size_stamp x y Padlock.mask glyph
    rw [padlockRows, Drawing.padlockRows, stamp_eq inside (by omega), ok_bind]
    refine ih ?_ ?_
    · rwa [stride_of_size same]
    · rw [height_of_size same]
      omega

theorem padlock_eq (wide : 8 ≤ target.width) (rows : List UInt8) (x y : Nat) :
    padlock target rows x y = .ok (Drawing.padlock target rows x y) := by
  rw [padlock, Drawing.padlock]
  split
  next => rw [pure_eq_ok]
  next room =>
    obtain ⟨left, below⟩ := not_or.mp room
    have widths := target.width_eq
    rw [padlockWidth] at left
    rw [padlockRows_eq (by omega) (by omega), ok_bind, pure_eq_ok]

theorem lineRow_eq (b : Bitmap) (x row : Nat) :
    lineRow b (singleBit (x % 8)) x row = .ok (b.setPixel x row true) := by
  rw [lineRow, Bitmap.setPixel]
  by_cases inside : x < b.width ∧ row < b.height
  · rw [byteIndex, if_pos inside]
    exact alter_of_lt (index_lt inside.1 inside.2)
  · rw [byteIndex, if_neg inside]
    rfl

theorem verticalLine_eq (target : Bitmap) (x y size : Nat) :
    verticalLine target x y size = .ok (Drawing.verticalLine target x y size) := by
  rw [verticalLine, Drawing.verticalLine]
  split
  next => rw [pure_eq_ok]
  next long =>
    have bit : x % 8 < 8 := Nat.mod_lt x (by decide)
    have bottom : target.height ≤ y + size - 1 ↔ target.height < y + size := by omega
    rw [sub_of_le (by omega), ok_bind]
    simp only [bottom]
    split
    next => rw [pure_eq_ok]
    next room =>
      have rows := target.height_lt
      rw [shiftRight_of_lt bit, ok_bind, add_of_le (by rw [wordLimit]; omega), ok_bind,
        Nat.add_sub_cancel_left, List.range'_eq_map_range, List.foldlM_map, singleBit_eq bit,
        foldlM_bitmap (fun b i => size_setPixel ..) fun b _ i _ => lineRow_eq b x (y + i),
        ok_bind, pure_eq_ok]

end Shapes

section Bars

open Drawing

variable {target : Bitmap} {index count percent row x y : Nat} {value other : Nat → UInt8}

/-- Bytes next to each other, each with its own value. -/
def fillRun (b : Bitmap) (index count : Nat) (value : Nat → UInt8) : Bitmap :=
  (List.range count).foldl (fun b i => b.modifyByte (index + i) fun _ => value i) b

theorem fillRun_succ (b : Bitmap) (index count : Nat) (value : Nat → UInt8) :
    fillRun b index (count + 1) value =
      (fillRun b index count value).modifyByte (index + count) fun _ => value count := by
  rw [fillRun, List.range_succ, List.foldl_append]
  rfl

@[simp] theorem size_fillRun (b : Bitmap) (index count : Nat) (value : Nat → UInt8) :
    (fillRun b index count value).size = b.size := by
  induction count with
  | zero => rfl
  | succ count ih => rw [fillRun_succ, size_modifyByte, ih]

theorem getElem?_fillRun (b : Bitmap) (index count : Nat) (value : Nat → UInt8) (j : Nat) :
    (fillRun b index count value).bytes[j]? =
      if index ≤ j ∧ j < index + count then b.bytes[j]?.map fun _ => value (j - index)
      else b.bytes[j]? := by
  induction count with
  | zero =>
    rw [if_neg (by omega)]
    rfl
  | succ count ih =>
    rw [fillRun_succ]
    change ((fillRun b index count value).bytes.modify (index + count) fun _ => value count)[j]? = _
    rw [Array.getElem?_modify, ih]
    by_cases last : index + count = j
    · subst last
      rw [if_pos rfl, if_neg (by omega), if_pos (by omega), Nat.add_sub_cancel_left]
    · have before : index ≤ j ∧ j < index + count ↔ index ≤ j ∧ j < index + (count + 1) := by
        omega
      rw [if_neg last]
      simp only [before]

/-- A byte of a run that is changed afterwards has the changed value from the start. -/
theorem modifyByte_fillRun {k : Nat} (b : Bitmap) (f : UInt8 → UInt8) (inside : k < count) :
    (fillRun b index count value).modifyByte (index + k) f =
      fillRun b index count fun i => if i = k then f (value i) else value i := by
  refine Bitmap.ext (by simp) (Array.ext_getElem? fun j => ?_)
  change ((fillRun b index count value).bytes.modify (index + k) f)[j]? = _
  rw [Array.getElem?_modify, getElem?_fillRun, getElem?_fillRun]
  by_cases here : index + k = j
  · subst here
    rw [if_pos rfl, if_pos (by omega), if_pos (by omega), Nat.add_sub_cancel_left, Option.map_map,
      if_pos rfl]
    rfl
  · have elsewhere : index ≤ j → j - index ≠ k := by omega
    rw [if_neg here]
    split
    next within => rw [if_neg (elsewhere within.1)]
    next => rfl

theorem fillRun_congr (b : Bitmap) (same : ∀ i < count, value i = other i) :
    fillRun b index count value = fillRun b index count other := by
  induction count with
  | zero => rfl
  | succ count ih =>
    rw [fillRun_succ, fillRun_succ, ih fun i before => same i (by omega),
      same count (Nat.lt_succ_self count)]

theorem fillRun_eq (room : index + count ≤ target.bytes.size) (value : Nat → UInt8) :
    (List.range count).foldlM (fun b i => alter b (index + i) fun _ => value i) target =
      .ok (fillRun target index count value) := by
  refine foldlM_bitmap (fun b i => size_modifyByte ..) fun b same i member => alter_of_lt ?_
  have before : i < count := List.mem_range.mp member
  rw [b.bytes_size, same, ← target.bytes_size]
  omega

theorem alter_fillRun {i k : Nat} (room : index + count ≤ target.bytes.size) (inside : k < count)
    (place : i = index + k) (f : UInt8 → UInt8) :
    alter (fillRun target index count value) i f =
      .ok (fillRun target index count fun i => if i = k then f (value i) else value i) := by
  subst place
  rw [alter_of_lt, modifyByte_fillRun target f inside]
  rw [bytes_size, size_fillRun, ← target.bytes_size]
  omega

theorem read_ditherPatterns (below : 0 < row) :
    read ditherPatterns ((row - 1) % 2) = .ok (ditherPattern row) := by
  rw [ditherPattern]
  rcases Nat.mod_two_eq_zero_or_one row with even | odd
  · have place : (row - 1) % 2 = 1 := by omega
    rw [place, even]
    rfl
  · have place : (row - 1) % 2 = 0 := by omega
    rw [place, odd]
    rfl

/-- The cut through the last filled byte of a bar. -/
theorem barCut_eq {k : Nat} (h : k < 8) :
    (0xff : UInt8) <<< (7 - k).toUInt8 = (0xff <<< (7 - k)).toUInt8 := by
  revert k
  decide

theorem barByte_outer (outer : row = 0 ∨ row = barHeight - 1) (percent i : Nat) :
    barByte percent row i = if i = barBytes - 1 then 0xfc else 0xff := by
  rw [barByte, if_pos outer]

theorem or_border (fill border : UInt8) (p : Prop) [Decidable p] :
    (if p then fill ||| border else fill) = fill ||| if p then border else 0 := by
  split
  · rfl
  · rw [UInt8.or_zero]

/-- The borders come over the fill, where they add their pixels. -/
theorem barByte_inner (inner : ¬ (row = 0 ∨ row = barHeight - 1)) (percent i : Nat) :
    let fill := if i < percent / 8 then ditherPattern row
      else if i = percent / 8 then
        ditherPattern row &&& (0xff : UInt8) <<< (7 - percent % 8).toUInt8
      else 0
    let bordered := if i = 0 then fill ||| 0x80 else fill
    (if i = barBytes - 1 then bordered ||| 0x04 else bordered) = barByte percent row i := by
  intro fill bordered
  rw [or_border, barByte, if_neg inner, ← barCut_eq (Nat.mod_lt percent (by decide))]
  change (if i = 0 then fill ||| 0x80 else fill) ||| _ = _
  rw [or_border]

/-- A row is written piece by piece, and has its own bytes in the end. -/
theorem barRow_eq (room : index + barBytes ≤ target.bytes.size) (percent row : Nat) :
    barRow target percent ((0xff : UInt8) <<< (7 - percent % 8).toUInt8) row index =
      .ok (fillRun target index barBytes (barByte percent row)) := by
  rw [barRow, window, if_pos room, ok_bind]
  split
  next outer =>
    have front : index + (barBytes - 1) ≤ target.bytes.size := by omega
    have solid : fillRun target index (barBytes - 1) (fun _ => 0xff) =
        fillRun target index (barBytes - 1) (barByte percent row) :=
      fillRun_congr target fun i before => by
        rw [barByte_outer outer, if_neg (Nat.ne_of_lt before)]
    have last : (0xfc : UInt8) = barByte percent row (barBytes - 1) := by
      rw [barByte_outer outer, if_pos rfl]
    rw [fillRun_eq front, ok_bind, solid, last, alter_of_lt]
    · exact congrArg Except.ok (fillRun_succ target index (barBytes - 1) _).symm
    · rw [bytes_size, size_fillRun, ← target.bytes_size]
      exact room
  next inner =>
    rw [read_ditherPatterns (by omega), ok_bind, fillRun_eq room, ok_bind,
      alter_fillRun room (by decide) (Nat.add_zero index).symm, ok_bind,
      alter_fillRun room (by decide) rfl]
    exact congrArg Except.ok (fillRun_congr target fun i _ => barByte_inner inner percent i)

theorem progressBar_eq (target : Bitmap) (percent x y : Nat) :
    progressBar target percent x y = .ok (Drawing.progressBar target percent x y) := by
  rw [progressBar, Drawing.progressBar]
  split
  next => rw [pure_eq_ok]
  next =>
    split
    next => rw [pure_eq_ok]
    next room =>
      obtain ⟨-, below⟩ := not_or.mp room
      rw [barEnd] at below
      dsimp only
      rw [sub_of_le (by omega), ok_bind, shiftLeft_of_lt (by omega), ok_bind,
        foldlM_bitmap (fun b row => size_barRow ..), ok_bind, pure_eq_ok]
      intro b same row member
      refine barRow_eq ?_ _ _
      have upper : row < barHeight := List.mem_range.mp member
      have rows : (y + row) * target.stride ≤ (y + barHeight - 1) * target.stride :=
        Nat.mul_le_mul_right _ (by omega)
      rw [b.bytes_size, same, ← target.bytes_size]
      omega

end Bars

section Images

variable {source : Bitmap} {band column bit : Nat} {destination : List UInt8}

/-- The bytes of the eight rows of a band are there. -/
theorem gather_eq (hb : band < source.height / 8) (hc : column < source.stride) (hs : bit < 8) :
    gather source band column bit = .ok (source.gather band column bit) := by
  refine foldlM_eq fun sum n member => ?_
  have row : n < 8 := List.mem_range.mp member
  rw [read, if_pos (byte_lt hc (by omega)), ok_bind, shiftRight_of_lt hs, ok_bind,
    shiftLeft_of_lt row, ok_bind, pure_eq_ok]

/-- The destination has a byte for each column of each band. -/
def HoldsImage (source : Bitmap) (destination : List UInt8) : Prop :=
  destination.length = source.height / 8 * source.width

theorem HoldsImage.place_lt {place : Nat} (room : HoldsImage source destination)
    (hb : band < source.height / 8) (hc : column < source.stride) (hp : place < 8) :
    band * source.width + column * 8 + place < destination.length := by
  have widths := source.width_eq
  rw [room]
  calc band * source.width + column * 8 + place < band * source.width + source.width := by omega
    _ = (band + 1) * source.width := (Nat.succ_mul ..).symm
    _ ≤ source.height / 8 * source.width := Nat.mul_le_mul_right _ hb

theorem writeColumns_runs (room : HoldsImage source destination)
    (hb : band < source.height / 8) (hc : column < source.stride) :
    writeColumns source band column destination =
        .ok (Report.writeColumns source band column destination) ∧
      HoldsImage source (Report.writeColumns source band column destination) := by
  have order : (List.range 8).reverse = (List.range 8).map (7 - ·) := rfl
  rw [writeColumns, order, List.foldlM_map]
  refine foldlM_runs (HoldsImage source) room fun written same place member =>
    ⟨?_, List.length_set.trans same⟩
  have inside : place < 8 := List.mem_range.mp member
  have back : 7 - (7 - place) = place := by omega
  rw [gather_eq hb hc (by omega), ok_bind, sub_of_le (Nat.sub_le ..), ok_bind, back, store,
    if_pos (same.place_lt hb hc inside)]

theorem writeBand_runs (room : HoldsImage source destination) (hb : band < source.height / 8) :
    writeBand source band destination = .ok (Report.writeBand source band destination) ∧
      HoldsImage source (Report.writeBand source band destination) :=
  foldlM_runs (HoldsImage source) room fun _ same _ member =>
    writeColumns_runs same hb (List.mem_range.mp member)

theorem writeImage_eq (source : Bitmap) (destination : List UInt8) :
    writeImage source destination = .ok (Report.writeImage destination source) := by
  rw [writeImage, Report.writeImage]
  split
  next => rw [pure_eq_ok]
  next fits =>
    have room : HoldsImage source destination := not_not.mp (not_or.mp fits).2
    rw [(foldlM_runs (HoldsImage source) room fun _ same _ member =>
      writeBand_runs same (List.mem_range.mp member)).1, ok_bind, pure_eq_ok]

end Images

section Pens

variable {g : GlyphSheet} {target : Bitmap} {x y : Nat} {chars : List Char}

/-- Where the pen stands in turn while characters are drawn: where it starts, and then behind
each character that is drawn. -/
def pens (g : GlyphSheet) (target : Bitmap) (y : Nat) : Nat → List Char → List Nat
  | x, [] => [x]
  | x, c :: rest =>
    match g.blit target c x y with
    | .ok (drawn, pen) => x :: pens g drawn y pen rest
    | .error _ => [x]

theorem pens_eq_cons (g : GlyphSheet) (target : Bitmap) (y x : Nat) (chars : List Char) :
    pens g target y x chars = x :: (pens g target y x chars).tail := by
  cases chars with
  | nil => rfl
  | cons c rest =>
    rw [pens]
    split <;> rfl

/-- The pen does not get behind a cell that is drawn, and all of that is in the bitmap. -/
theorem pens_le : ∀ pen ∈ (pens g target y x chars).tail, pen ≤ target.width := by
  induction chars generalizing target x with
  | nil =>
    intro pen member
    cases member
  | cons c rest ih =>
    rw [pens]
    split
    next drawn pen drew =>
      have same := width_of_size (GlyphSheet.size_of_blit drew)
      obtain ⟨cell, -, ⟨wide, -⟩, -, moved⟩ := GlyphSheet.blit_eq_ok_iff.mp drew
      have near := g.advance_le c
      rw [List.tail_cons, pens_eq_cons, List.forall_mem_cons, ← same]
      refine ⟨?_, ih⟩
      omega
    next =>
      intro pen member
      cases member

end Pens

/-- Nothing that draws with a sheet that has passed its checks stops the machine, on any bitmap,
anywhere and whatever is drawn: no sum leaves sixteen bits, no difference falls below zero, no
byte is moved by eight places, and no index passes the bytes of the bitmap, of which there are
as many as its size asks for. What comes of it is what the same drawing comes to without any
check. The pen stays in the bitmap once a character has been drawn. A padlock needs a bitmap of
one byte per row at least. -/
theorem drawing_runs {picture : Bitmap} {spec : FontSpec} {g : GlyphSheet}
    (made : GlyphSheet.ofBitmap picture spec = .ok g) (target : Bitmap) :
    target.bytes.size = target.width / 8 * target.height ∧
    (∀ x y on, setPixel target x y on = .ok (target.setPixel x y on)) ∧
    (∀ c, advance g c = .ok (g.advance c)) ∧
    (∀ c x y, blit g target c x y = .ok (g.blit target c x y)) ∧
    (∀ s x y, text g target s x y = .ok (Drawing.text g target s x y)) ∧
    (∀ chars x y, ∀ pen ∈ (pens g target y x chars).tail, pen ≤ target.width) ∧
    (∀ s, g.centeredX s target.width ≤ target.width) ∧
    (∀ percent x y,
      progressBar target percent x y = .ok (Drawing.progressBar target percent x y)) ∧
    (∀ x y size, verticalLine target x y size = .ok (Drawing.verticalLine target x y size)) ∧
    (8 ≤ target.width → ∀ rows x y,
      padlock target rows x y = .ok (Drawing.padlock target rows x y)) ∧
    ∀ destination, writeImage target destination = .ok (Report.writeImage destination target) :=
  ⟨target.bytes_size, setPixel_eq target, advance_eq made, blit_eq made target,
    text_eq made target, fun _ _ _ => pens_le,
    fun _ => Nat.le_trans (Nat.div_le_self ..) (Nat.sub_le ..), progressBar_eq target,
    verticalLine_eq target, padlock_eq, writeImage_eq target⟩

/-- On the tallest bitmap of one byte per row: a glyph and a padlock in the last rows, and a line
from the first row to the last. -/
theorem drawing_runs_tallest :
    let sheet := Bitmap.dark ⟨80, 48⟩ (by decide)
    let g : GlyphSheet := ⟨Font.mono5x8.spec, sheet, Font.mono5x8.spec.placements⟩
    let target := Bitmap.dark ⟨8, 65535⟩ (by decide)
    let rows := Padlock.rows true true
    GlyphSheet.ofBitmap sheet Font.mono5x8.spec = .ok g ∧ 8 ≤ target.width ∧
      blit g target 'K' 3 65527 = .ok (g.blit target 'K' 3 65527) ∧
      verticalLine target 7 0 65535 = .ok (Drawing.verticalLine target 7 0 65535) ∧
      padlock target rows 3 65529 = .ok (Drawing.padlock target rows 3 65529) := by
  intro sheet g target rows
  have made : GlyphSheet.ofBitmap sheet Font.mono5x8.spec = .ok g :=
    GlyphSheet.ofBitmap_of_isOk (by decide +kernel)
  have wide : 8 ≤ target.width := by decide
  obtain ⟨-, -, -, glyph, -, -, -, -, line, lock, -⟩ := drawing_runs made target
  exact ⟨made, wide, glyph 'K' 3 65527, line 7 0 65535, lock wide rows 3 65529⟩

/-- Without a byte in a row the machine stops at the first row of a padlock. -/
example : padlock (Bitmap.dark ⟨0, 6⟩ (by decide)) (Padlock.rows true true) 0 0 =
    .error (.outside 0 0) := by decide

end LcdCompositor.Machine
