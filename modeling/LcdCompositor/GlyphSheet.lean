import LcdCompositor.Bitmap

/-!
# Glyph sheets

A font is one bitmap, the sheet, cut into cells of one size. A table of rows of
characters says which cell shows which character. Cells are five, six or a
multiple of eight pixels wide; the narrow ones straddle bytes of the sheet.

Behind a glyph the pen moves by the width of a cell less the blank columns that
the font keeps on the left. A condensed font takes off some more, except behind
the widest letters.
-/

namespace LcdCompositor

/-- What has to be known of a font besides its sheet. -/
structure FontSpec where
  /-- The file of the sheet, inside the data directory. -/
  file : String
  sheet : Size
  cellWidth : Nat
  cellHeight : Nat
  /-- Blank columns on the left of every cell. -/
  leftShift : Nat
  /-- What a condensed font takes off the advance in addition. -/
  extraShift : Nat
  /-- The characters of the cells, one string per row of cells. -/
  rows : List String
deriving DecidableEq, Repr, Inhabited

/-- A place in the grid of cells. -/
structure Cell where
  column : Nat
  row : Nat
deriving DecidableEq, Repr

/-- The place as it is kept: sixteen bits are left of its column and as many of its row. -/
def Cell.kept (cell : Cell) : Cell := ⟨cell.column % 65536, cell.row % 65536⟩

/-- A part of a row of a glyph: the bits of one byte of the sheet that are under `mask`,
moved to their place. The byte is counted from the one in which the cell starts. -/
structure Cut where
  byte : Nat
  mask : UInt8
  left : UInt8
  right : UInt8
deriving DecidableEq, Repr

namespace Cut

/-- The bits of a byte in their place. -/
def take (cut : Cut) (byte : UInt8) : UInt8 := (byte &&& cut.mask) <<< cut.left >>> cut.right

/-- A byte as it is. -/
def whole (byte : Nat) : Cut := ⟨byte, 0xff, 0, 0⟩

/-- The row of a cell six pixels wide. Four such cells fill three bytes. -/
def six (column : Nat) : List Cut :=
  match column % 4 with
  | 0 => [⟨0, 0b11111100, 0, 0⟩]
  | 1 => [⟨0, 0b00000011, 6, 0⟩, ⟨1, 0b11110000, 0, 2⟩]
  | 2 => [⟨0, 0b00001111, 4, 0⟩, ⟨1, 0b11000000, 0, 4⟩]
  | _ => [⟨0, 0b00111111, 2, 0⟩]

/-- The row of a cell five pixels wide. Eight such cells fill five bytes. -/
def five (column : Nat) : List Cut :=
  match column % 8 with
  | 0 => [⟨0, 0b11111000, 0, 0⟩]
  | 1 => [⟨0, 0b00000111, 5, 0⟩, ⟨1, 0b11000000, 0, 3⟩]
  | 2 => [⟨0, 0b00111110, 2, 0⟩]
  | 3 => [⟨0, 0b00000001, 7, 0⟩, ⟨1, 0b11110000, 0, 1⟩]
  | 4 => [⟨0, 0b00001111, 4, 0⟩, ⟨1, 0b10000000, 0, 4⟩]
  | 5 => [⟨0, 0b01111100, 1, 0⟩]
  | 6 => [⟨0, 0b00000011, 6, 0⟩, ⟨1, 0b11100000, 0, 2⟩]
  | _ => [⟨0, 0b00011111, 3, 0⟩]

end Cut

namespace FontSpec

/-- The usual layout of a sheet. -/
def standardRows : List String := [
  "ABCDEFGHIJKLMNOP",
  "QRSTUVWXYZabcdef",
  "ghijklmnopqrstuv",
  "wxyz0123456789.:",
  ",;!?'\"-+*/=%()[]",
  "<>_#&@$|~^ °éèàç"]

/-- Each character of one row with its cell. -/
def placeRow (row : Nat) (chars : List Char) : List (Char × Cell) :=
  chars.zipIdx.map fun (c, column) => (c, Cell.kept ⟨column, row⟩)

/-- Each character of the table with its cell as it is kept, row by row. -/
def placements (spec : FontSpec) : List (Char × Cell) :=
  spec.rows.zipIdx.flatMap fun (chars, row) => placeRow row chars.toList

/-- Whether a cell lies inside a sheet of the given size. -/
def fits (spec : FontSpec) (sheet : Size) (cell : Cell) : Bool :=
  (cell.column + 1) * spec.cellWidth ≤ sheet.width.toNat &&
    (cell.row + 1) * spec.cellHeight ≤ sheet.height.toNat

/-- The cell width is one that glyph rows can be cut out for. -/
def widthSupported (spec : FontSpec) : Bool :=
  spec.cellWidth == 5 || spec.cellWidth == 6 ||
    (0 < spec.cellWidth && spec.cellWidth % 8 == 0)

end FontSpec

/-- A sheet that has passed all checks of its font. -/
structure GlyphSheet where
  spec : FontSpec
  picture : Bitmap
  cells : List (Char × Cell)
deriving Inhabited

namespace GlyphSheet

/-- The first character whose cell is not inside the sheet. -/
def outsider (spec : FontSpec) (sheet : Size) (cells : List (Char × Cell)) :
    Option (Char × Cell) :=
  cells.find? fun placed => !spec.fits sheet placed.2

/-- Builds a sheet from its picture. The geometry of the cells is checked first,
then the size of the picture, then the table. -/
def ofBitmap (picture : Bitmap) (spec : FontSpec) : Except Fault GlyphSheet :=
  if !spec.widthSupported then .error (.format (.cellWidth spec.cellWidth))
  else if spec.cellHeight = 0 ∨ spec.cellWidth ≤ spec.leftShift + spec.extraShift then
    .error (.format
      (.cellGeometry spec.cellWidth spec.cellHeight spec.leftShift spec.extraShift))
  else if picture.size ≠ spec.sheet then
    .error (.format (.sheetSize picture.size spec.sheet))
  else
    match outsider spec picture.size spec.placements with
    | some (c, cell) =>
      .error (.format (.cellOutsideSheet cell.column cell.row c picture.size))
    | none => .ok ⟨spec, picture, spec.placements⟩

def cellWidth (g : GlyphSheet) : Nat := g.spec.cellWidth

def cellHeight (g : GlyphSheet) : Nat := g.spec.cellHeight

/-- Bytes in one row of a glyph. -/
def cellBytes (g : GlyphSheet) : Nat := (g.cellWidth + 7) / 8

/-- The cell of a character. Where a table names a character twice the later
cell counts. -/
def cell (g : GlyphSheet) (c : Char) : Option Cell := g.cells.reverse.lookup c

/-- Whether the font can show a character. -/
def has (g : GlyphSheet) (c : Char) : Bool := (g.cell c).isSome

/-- The bits of its byte that a narrow cell occupies; a wide cell fills its bytes. -/
def cellMask (g : GlyphSheet) : UInt8 :=
  if g.cellWidth % 8 = 0 then 0xff else (0xff <<< (8 - g.cellWidth)).toUInt8

/-- A byte of the sheet, and zero behind its end. -/
def sheetByte (g : GlyphSheet) (i : Nat) : UInt8 := g.picture.bytes.getD i 0

/-- How a row of a cell is cut out of the sheet. Of a wide cell `offset` selects the byte; a
narrow cell has a single byte, with bits of the two that it may straddle. -/
def cuts (g : GlyphSheet) (cell : Cell) (offset : Nat) : List Cut :=
  match g.cellWidth with
  | 6 => Cut.six cell.column
  | 5 => Cut.five cell.column
  | _ => [.whole offset]

/-- The byte of the sheet in which a line of a cell starts. -/
def lineStart (g : GlyphSheet) (cell : Cell) (line : Nat) : Nat :=
  cell.row * g.cellHeight * g.picture.stride + cell.column * g.cellWidth / 8 +
    line * g.picture.stride

/-- One byte of line `line` of a cell, the leftmost pixel in the most significant bit. -/
def glyphRow (g : GlyphSheet) (cell : Cell) (line offset : Nat) : UInt8 :=
  (g.cuts cell offset).foldl (fun row cut =>
    row ||| cut.take (g.sheetByte (g.lineStart cell line + cut.byte))) 0

/-- Letters that keep their full advance in a condensed font. -/
def wideLetters : List Char := ['M', 'W', 'm', 'w', '@', '%']

/-- How far the pen moves behind a character. -/
def advance (g : GlyphSheet) (c : Char) : Nat :=
  let step := g.cellWidth - g.spec.leftShift
  if 0 < g.spec.extraShift ∧ c ∉ wideLetters then step - g.spec.extraShift else step

/-- The largest width that is told apart; longer texts count as this wide. -/
def widthLimit : Nat := 65535

/-- The width of a text: the sum of its advances, at most `widthLimit`. -/
def textWidth (g : GlyphSheet) (text : String) : Nat :=
  text.toList.foldl (fun sum c => min (sum + g.advance c) widthLimit) 0

/-- The column at which a text stands in the middle of `frameWidth` columns. -/
def centeredX (g : GlyphSheet) (text : String) (frameWidth : Nat) : Nat :=
  (frameWidth - g.textWidth text) / 2

/-- The row at which a line stands in the middle of `frameHeight` rows. -/
def centeredY (g : GlyphSheet) (frameHeight : Nat) : Nat :=
  (frameHeight - g.cellHeight) / 2

/-- Overlays the bytes of one line of a glyph. -/
def blitLine (g : GlyphSheet) (target : Bitmap) (cell : Cell) (x y line : Nat) : Bitmap :=
  (List.range g.cellBytes).foldl (fun b offset =>
    b.stamp (x + 8 * offset) (y + line) g.cellMask (g.glyphRow cell line offset)) target

/-- Overlays all lines of a glyph. -/
def blitCell (g : GlyphSheet) (target : Bitmap) (cell : Cell) (x y : Nat) : Bitmap :=
  (List.range g.cellHeight).foldl (fun b line => g.blitLine b cell x y line) target

/-- Draws one character with its top left corner at `(x, y)` and returns where
the pen stands behind it. The glyph replaces what its cell covers. Nothing is
drawn unless the font has the character and the whole cell fits. -/
def blit (g : GlyphSheet) (target : Bitmap) (c : Char) (x y : Nat) :
    Except Fault (Bitmap × Nat) :=
  match g.cell c with
  | none => .error (.unknownCharacter c)
  | some cell =>
    if target.width < x + g.cellWidth then
      .error (.bounds (.glyph .horizontal x c (target.width - g.cellWidth)))
    else if target.height < y + g.cellHeight then
      .error (.bounds (.glyph .vertical y c (target.height - g.cellHeight)))
    else .ok (g.blitCell target cell x y, x + g.advance c)

@[simp] theorem size_blitLine (g : GlyphSheet) (target : Bitmap) (cell : Cell)
    (x y line : Nat) : (g.blitLine target cell x y line).size = target.size := by
  unfold blitLine
  generalize List.range g.cellBytes = offsets
  induction offsets generalizing target with
  | nil => rfl
  | cons o rest ih => rw [List.foldl_cons, ih, Bitmap.size_stamp]

@[simp] theorem size_blitCell (g : GlyphSheet) (target : Bitmap) (cell : Cell)
    (x y : Nat) : (g.blitCell target cell x y).size = target.size := by
  unfold blitCell
  generalize List.range g.cellHeight = lines
  induction lines generalizing target with
  | nil => rfl
  | cons l rest ih => rw [List.foldl_cons, ih, size_blitLine]

theorem size_of_blit {g : GlyphSheet} {target drawn : Bitmap} {c : Char} {x y pen : Nat}
    (h : g.blit target c x y = .ok (drawn, pen)) : drawn.size = target.size := by
  unfold blit at h
  split at h
  · cases h
  · split at h
    · cases h
    · split at h
      · cases h
      · cases h
        exact size_blitCell ..

end GlyphSheet

end LcdCompositor
