import LcdCompositor.Proofs.Bitmap.Pixel
import LcdCompositor.Proofs.GlyphSheet.Table

/-!
# What a row of a glyph holds

A row of a glyph is cut out of one or two bytes of the sheet, by a table for each of the
narrow widths. The tables are right because of where they take each bit from, which does
not depend on what the bytes hold: bit `i` of a row comes from as many bits behind the
start of the cell, and bits behind the cell come from nowhere. That settles both what a
row shows and which bytes are read for it.
-/

namespace LcdCompositor

namespace Cut

open Bitmap

/-- Where bit `i` of a row comes from, if the cut fills it: a bit of the sheet, counted from
the first bit of the byte in which the cell starts. -/
def source (cut : Cut) (i : Nat) : Option Nat :=
  let place := i - cut.right.toNat % 8 + cut.left.toNat % 8
  if cut.right.toNat % 8 ≤ i ∧ place < 8 ∧ bitFromLeft cut.mask place then
    some (8 * cut.byte + place)
  else none

/-- Whatever a source names lies in the byte of the cut. -/
theorem byte_of_source {cut : Cut} {i k : Nat} (h : cut.source i = some k) :
    k / 8 = cut.byte := by
  rw [source] at h
  split at h
  next filled =>
    cases h
    omega
  next => cases h

/-- Moving the bits under a mask fills a bit of the row from its source. -/
theorem bitFromLeft_take (cut : Cut) (byte : UInt8) {i : Nat} (hi : i < 8) :
    bitFromLeft (cut.take byte) i =
      (cut.source i).any fun k => bitFromLeft byte (k % 8) := by
  rw [take, bitFromLeft_shiftRight _ _ hi, bitFromLeft_shiftLeft _ _ (by omega),
    bitFromLeft_and, source]
  generalize i - cut.right.toNat % 8 + cut.left.toNat % 8 = place
  split
  next filled =>
    obtain ⟨moved, inside, masked⟩ := filled
    rw [decide_eq_true moved, decide_eq_true inside, masked, Option.any_some, Nat.mul_add_mod,
      Nat.mod_eq_of_lt inside, Bool.true_and, Bool.true_and, Bool.and_true]
  next unfilled =>
    rw [Option.any_none, Bool.eq_false_iff]
    simp only [ne_eq, Bool.and_eq_true, decide_eq_true_eq]
    exact fun ⟨moved, inside, _, masked⟩ => unfilled ⟨moved, inside, masked⟩

/-- A row made of cuts has its bits from their sources. -/
theorem bitFromLeft_row (cuts : List Cut) (byte : Nat → UInt8) (start : UInt8) {i : Nat}
    (hi : i < 8) :
    bitFromLeft (cuts.foldl (fun row cut => row ||| cut.take (byte cut.byte)) start) i =
      (bitFromLeft start i ||
        (cuts.filterMap (·.source i)).any fun k => bitFromLeft (byte (k / 8)) (k % 8)) := by
  induction cuts generalizing start with
  | nil => simp
  | cons cut rest ih =>
    rw [List.foldl_cons, ih, bitFromLeft_or, bitFromLeft_take cut _ hi, List.filterMap_cons]
    cases origin : cut.source i with
    | none => rw [Option.any_none, Bool.or_false]
    | some k => rw [Option.any_some, List.any_cons, byte_of_source origin, Bool.or_assoc]

theorem six_mod (column : Nat) : six column = six (column % 4) := by rw [six, six, Nat.mod_mod]

theorem five_mod (column : Nat) : five column = five (column % 8) := by
  rw [five, five, Nat.mod_mod]

/-- The rows of cells six pixels wide come from the six bits at which the cell starts. -/
theorem source_six {column i : Nat} (hi : i < 8) :
    (six column).filterMap (·.source i) = if i < 6 then [column * 6 % 8 + i] else [] := by
  have table : ∀ column < 4, ∀ i < 8,
      (six column).filterMap (·.source i) = if i < 6 then [column * 6 % 8 + i] else [] := by
    decide
  have start : column * 6 % 8 = column % 4 * 6 % 8 := by omega
  rw [six_mod, start]
  exact table (column % 4) (Nat.mod_lt column (by decide)) i hi

/-- The rows of cells five pixels wide come from the five bits at which the cell starts. -/
theorem source_five {column i : Nat} (hi : i < 8) :
    (five column).filterMap (·.source i) = if i < 5 then [column * 5 % 8 + i] else [] := by
  have table : ∀ column < 8, ∀ i < 8,
      (five column).filterMap (·.source i) = if i < 5 then [column * 5 % 8 + i] else [] := by
    decide
  have start : column * 5 % 8 = column % 8 * 5 % 8 := by omega
  rw [five_mod, start]
  exact table (column % 8) (Nat.mod_lt column (by decide)) i hi

/-- A whole byte comes from all its bits. -/
theorem source_whole (byte : Nat) {i : Nat} (hi : i < 8) :
    (whole byte).source i = some (8 * byte + i) := by
  have filled : bitFromLeft 0xff i = true := by
    revert i
    decide
  exact if_pos ⟨Nat.zero_le i, hi, filled⟩

end Cut

namespace GlyphSheet

/-- What the checks of a sheet leave: a cell width that rows can be cut out for, and all
cells inside the picture. -/
structure Accepted (g : GlyphSheet) : Prop where
  width : g.cellWidth = 5 ∨ g.cellWidth = 6 ∨ (0 < g.cellWidth ∧ g.cellWidth % 8 = 0)
  inside : ∀ {c : Char} {cell : Cell}, g.cell c = some cell →
    (cell.column + 1) * g.cellWidth ≤ g.picture.width ∧
      (cell.row + 1) * g.cellHeight ≤ g.picture.height

theorem accepted_of_ofBitmap {picture : Bitmap} {spec : FontSpec} {g : GlyphSheet}
    (h : ofBitmap picture spec = .ok g) : g.Accepted := by
  obtain ⟨⟨⟨width, -, -, -⟩, inside⟩, rfl⟩ := ofBitmap_eq_ok_iff.mp h
  refine ⟨width, fun here => ?_⟩
  obtain ⟨place, named, rfl⟩ := FontSpec.mem_placements.mp (mem_of_cell here)
  exact inside _ place named

section Rows

variable {g : GlyphSheet} {c : Char} {cell : Cell} {line offset i : Nat}

/-- The mask covers the columns of the cell. -/
theorem bitFromLeft_cellMask (h : g.Accepted) (ho : offset < g.cellBytes) (hi : i < 8) :
    Bitmap.bitFromLeft g.cellMask i = decide (8 * offset + i < g.cellWidth) := by
  rw [cellBytes] at ho
  rw [cellMask]
  rcases h.width with five | six | ⟨_, bytes⟩
  · have first : offset = 0 := by omega
    rw [five, first]
    revert i
    decide
  · have first : offset = 0 := by omega
    rw [six, first]
    revert i
    decide
  · have within : 8 * offset + i < g.cellWidth := by omega
    rw [if_pos bytes, decide_eq_true within]
    clear within
    revert i
    decide

/-- No cut is for nothing. -/
theorem exists_source {cut : Cut} (used : cut ∈ g.cuts cell offset) :
    ∃ i < 8, ∃ k, cut.source i = some k := by
  have six : ∀ column < 4, ∀ cut ∈ Cut.six column, ∃ i < 8, (cut.source i).isSome := by decide
  have five : ∀ column < 8, ∀ cut ∈ Cut.five column, ∃ i < 8, (cut.source i).isSome := by decide
  simp only [← Option.isSome_iff_exists]
  rw [cuts] at used
  split at used
  · rw [Cut.six_mod] at used
    exact six _ (Nat.mod_lt _ (by decide)) cut used
  · rw [Cut.five_mod] at used
    exact five _ (Nat.mod_lt _ (by decide)) cut used
  · rw [List.mem_singleton.mp used]
    exact ⟨0, by decide, Option.isSome_of_eq_some (Cut.source_whole offset (by decide))⟩

/-- Bit `i` of a row comes from as many bits behind the start of the cell, as far as the cell
is wide. -/
theorem source_cuts (h : g.Accepted) (cell : Cell) (ho : offset < g.cellBytes) (hi : i < 8) :
    (g.cuts cell offset).filterMap (·.source i) =
      if 8 * offset + i < g.cellWidth then
        [cell.column * g.cellWidth % 8 + (8 * offset + i)]
      else [] := by
  rw [cellBytes] at ho
  rcases h.width with five | six | ⟨_, bytes⟩
  · have first : 8 * offset + i = i := by omega
    rw [cuts, five, first]
    exact Cut.source_five hi
  · have first : 8 * offset + i = i := by omega
    rw [cuts, six, first]
    exact Cut.source_six hi
  · have start : cell.column * g.cellWidth % 8 = 0 := by
      rw [Nat.mul_mod, bytes, Nat.mul_zero, Nat.zero_mod]
    have table : g.cuts cell offset = [.whole offset] := by
      rw [cuts]
      split <;> first | omega | rfl
    rw [table, start, Nat.zero_add, if_pos (by omega), List.filterMap_cons,
      Cut.source_whole offset hi, List.filterMap_nil]

variable (inside : (cell.column + 1) * g.cellWidth ≤ g.picture.width ∧
  (cell.row + 1) * g.cellHeight ≤ g.picture.height)

include inside

/-- Where a pixel of a cell inside the sheet is found: in a byte of the sheet, counted from
the one in which its line starts. -/
theorem getPixel_of_cell {k : Nat} (hl : line < g.cellHeight) (hk : k < g.cellWidth) :
    g.lineStart cell line + (cell.column * g.cellWidth % 8 + k) / 8 < g.picture.bytes.size ∧
      g.picture.getPixel (cell.column * g.cellWidth + k) (cell.row * g.cellHeight + line) =
        Bitmap.bitFromLeft
          (g.sheetByte (g.lineStart cell line + (cell.column * g.cellWidth % 8 + k) / 8))
          ((cell.column * g.cellWidth % 8 + k) % 8) := by
  obtain ⟨right, bottom⟩ := inside
  rw [Nat.succ_mul] at right bottom
  have hx : cell.column * g.cellWidth + k < g.picture.width := by omega
  have hy : cell.row * g.cellHeight + line < g.picture.height := by omega
  have place : (cell.row * g.cellHeight + line) * g.picture.stride +
      (cell.column * g.cellWidth + k) / 8 =
        g.lineStart cell line + (cell.column * g.cellWidth % 8 + k) / 8 := by
    rw [lineStart, Nat.add_mul]
    omega
  have bit : (cell.column * g.cellWidth + k) % 8 = (cell.column * g.cellWidth % 8 + k) % 8 := by
    omega
  rw [Bitmap.getPixel_of_inside hx hy, bit, ← place]
  exact ⟨Bitmap.index_lt hx hy, rfl⟩

/-- A row of a glyph holds the pixels of its cell, and behind them nothing. -/
theorem bitFromLeft_glyphRow (h : g.Accepted) (hl : line < g.cellHeight)
    (ho : offset < g.cellBytes) (hi : i < 8) :
    Bitmap.bitFromLeft (g.glyphRow cell line offset) i =
      (decide (8 * offset + i < g.cellWidth) &&
        g.picture.getPixel (cell.column * g.cellWidth + (8 * offset + i))
          (cell.row * g.cellHeight + line)) := by
  rw [glyphRow, Cut.bitFromLeft_row _ (fun n => g.sheetByte (g.lineStart cell line + n)) _ hi,
    source_cuts h cell ho hi, Bitmap.bitFromLeft_zero, Bool.false_or]
  by_cases covered : 8 * offset + i < g.cellWidth
  · rw [if_pos covered, decide_eq_true covered, Bool.true_and,
      (getPixel_of_cell inside hl covered).2, List.any_cons, List.any_nil, Bool.or_false]
  · rw [if_neg covered, decide_eq_false covered, List.any_nil, Bool.false_and]

/-- Every byte that a row is cut from holds a pixel of the cell, so it is in the sheet. -/
theorem read_of_mem_cuts (h : g.Accepted) (hl : line < g.cellHeight) (ho : offset < g.cellBytes)
    {cut : Cut} (used : cut ∈ g.cuts cell offset) :
    g.lineStart cell line + cut.byte < g.picture.bytes.size := by
  obtain ⟨i, hi, k, found⟩ := exists_source used
  have member : k ∈ (g.cuts cell offset).filterMap (·.source i) :=
    List.mem_filterMap.mpr ⟨cut, used, found⟩
  rw [source_cuts h cell ho hi] at member
  split at member
  next covered =>
    rw [List.mem_singleton] at member
    rw [← Cut.byte_of_source found, member]
    exact (getPixel_of_cell inside hl covered).1
  next => cases member

end Rows

/-- A row of any cell inside the sheet, whether or not a character has it, holds the pixels
of the cell: a bit is set if and only if the cell is that wide and the sheet is lit there.
Each byte that the row is cut from is a byte of the sheet, so none is made up. -/
theorem glyphRow_pixels {picture : Bitmap} {spec : FontSpec} {g : GlyphSheet}
    (accepted : ofBitmap picture spec = .ok g) (cell : Cell)
    (inside : (cell.column + 1) * spec.cellWidth ≤ picture.width ∧
      (cell.row + 1) * spec.cellHeight ≤ picture.height)
    {line offset : Nat} (hl : line < spec.cellHeight) (ho : offset < g.cellBytes) :
    (∀ k < 8, (g.glyphRow cell line offset).toNat.testBit (7 - k) = true ↔
      8 * offset + k < spec.cellWidth ∧
        picture.getPixel (cell.column * spec.cellWidth + (8 * offset + k))
          (cell.row * spec.cellHeight + line) = true) ∧
    ∀ cut ∈ g.cuts cell offset,
      picture.bytes[g.lineStart cell line + cut.byte]? =
        some (g.sheetByte (g.lineStart cell line + cut.byte)) := by
  have sound := accepted_of_ofBitmap accepted
  have parts := ofBitmap_eq accepted
  obtain rfl : g.spec = spec := by rw [parts]
  obtain rfl : g.picture = picture := by rw [parts]
  refine ⟨fun k hk => ?_, fun cut used => ?_⟩
  · have bit := bitFromLeft_glyphRow inside sound hl ho hk
    rw [Bitmap.bitFromLeft] at bit
    rw [bit, Bool.and_eq_true, decide_eq_true_iff]
    rfl
  · have read := read_of_mem_cuts inside sound hl ho used
    rw [sheetByte, Array.getD_eq_getD_getElem?, Array.getElem?_eq_getElem read, Option.getD_some]

/-- The last line of a font's last cell, which no character has. It ends with the sheet, and
its row is cut from the last byte alone. -/
theorem glyphRow_pixels_corner :
    let spec : FontSpec := ⟨"digits.pbm", ⟨40, 8⟩, 5, 8, 0, 0, ["0123456"]⟩
    let sheet := (Bitmap.dark ⟨40, 8⟩ (by decide)).setPixel 39 7 true
    let g : GlyphSheet := ⟨spec, sheet, spec.placements⟩
    ofBitmap sheet spec = .ok g ∧ sheet.bytes.size = 40 ∧
      (g.glyphRow ⟨7, 0⟩ 7 0).toNat.testBit 3 = true ∧
      (g.glyphRow ⟨7, 0⟩ 7 0).toNat.testBit 4 = false ∧
      ∀ cut ∈ g.cuts ⟨7, 0⟩ 0, g.lineStart ⟨7, 0⟩ 7 + cut.byte < 40 := by
  intro spec sheet g
  have made : ofBitmap sheet spec = .ok g := ofBitmap_of_isOk (by decide +kernel)
  have length : sheet.bytes.size = 40 := by decide +kernel
  obtain ⟨bits, reads⟩ := glyphRow_pixels made ⟨7, 0⟩ (by decide +kernel)
    (by decide : 7 < spec.cellHeight) (by decide : 0 < g.cellBytes)
  refine ⟨made, length, (bits 4 (by decide)).mpr (by decide +kernel), ?_, ?_⟩
  · rw [← Bool.not_eq_true]
    exact mt (bits 3 (by decide)).mp (by decide +kernel)
  · intro cut used
    rw [← length]
    exact (Array.getElem?_eq_some_iff.mp (reads cut used)).1

end GlyphSheet

end LcdCompositor
