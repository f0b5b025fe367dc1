import LcdCompositor.GlyphSheet

/-!
# Drawing on a frame

The shapes that screens are made of: a progress bar, the padlock, a vertical line
and a line of text. Bar, padlock and line are drawn whole or not at all. A text
is drawn up to the first character that cannot be drawn, and what has been drawn
by then stays.
-/

namespace LcdCompositor.Drawing

/-- Columns of a progress bar, both borders included. -/
def barWidth : Nat := 102

/-- Rows of a progress bar, both borders included. -/
def barHeight : Nat := 7

/-- Bytes in a row of a progress bar. -/
def barBytes : Nat := 13

/-- The two dither patterns, taken in turn by the rows between the borders. -/
def ditherPattern (row : Nat) : UInt8 := if row % 2 = 1 then 0xaa else 0x55

/-- Byte `i` of row `row` of a bar that is filled to `percent`, at most 100. The
first and the last row are solid. The other rows hold the fill, which covers the
columns up to `percent`, and always their first and last pixel. -/
def barByte (percent row i : Nat) : UInt8 :=
  if row = 0 ∨ row = barHeight - 1 then
    if i = barBytes - 1 then 0xfc else 0xff
  else
    let inside :=
      if i < percent / 8 then ditherPattern row
      else if i = percent / 8 then ditherPattern row &&& (0xff <<< (7 - percent % 8)).toUInt8
      else 0
    let left : UInt8 := if i = 0 then 0x80 else 0
    let right : UInt8 := if i = barBytes - 1 then 0x04 else 0
    inside ||| left ||| right

/-- Writes one row of a bar, starting at byte `index` of the bitmap. -/
def barRow (target : Bitmap) (percent row index : Nat) : Bitmap :=
  (List.range barBytes).foldl (fun b i =>
    b.modifyByte (index + i) fun _ => barByte percent row i) target

/-- The index of the last byte of a bar with its top at `y`, in a bitmap that has `stride`
bytes in a row. -/
def barEnd (stride x y : Nat) : Nat :=
  (y + barHeight - 1) * stride + x / 8 + barBytes - 1

/-- Draws a bar with its top at `y`. Its left edge is the byte that holds `x`. All its bytes
have to be there before the first one is written. -/
def progressBar (target : Bitmap) (percent x y : Nat) : Except Fault Bitmap :=
  if target.width < x + barWidth then .error (.bounds (.barTooWide x))
  else if target.stride < x / 8 + barBytes ∨
      target.bytes.size ≤ barEnd target.stride x y then
    .error (.bounds (.barOutside x y))
  else
    .ok ((List.range barHeight).foldl (fun b row =>
      barRow b (min percent 100) row ((y + row) * target.stride + x / 8)) target)

/-- Columns of a padlock. -/
def padlockWidth : Nat := 5

/-- Overlays the rows of a padlock from row `y` down. -/
def padlockRows (target : Bitmap) (x y : Nat) : List UInt8 → Bitmap
  | [] => target
  | glyph :: rest => padlockRows (target.stamp x y Padlock.mask glyph) x (y + 1) rest

/-- Draws the rows of a padlock with their top left corner at `(x, y)`. The five
columns they cover are cleared first. -/
def padlock (target : Bitmap) (rows : List UInt8) (x y : Nat) : Except Fault Bitmap :=
  if target.width - padlockWidth < x ∨ target.height < y + rows.length then
    .error (.bounds (.padlockOutside x y))
  else .ok (padlockRows target x y rows)

/-- Lights `size` pixels from `(x, y)` down; all others stay. -/
def verticalLine (target : Bitmap) (x y size : Nat) : Except Fault Bitmap :=
  if size = 0 then .ok target
  else if target.width ≤ x ∨ target.height < y + size then
    .error (.bounds (.lineOutside x y (y + size - 1)))
  else .ok ((List.range size).foldl (fun b i => b.setPixel x (y + i) true) target)

/-- Draws characters from a pen position on, and says why it stopped early. -/
def characters (g : GlyphSheet) (target : Bitmap) (y : Nat) :
    Nat → List Char → Bitmap × Option Fault
  | _, [] => (target, none)
  | x, c :: rest =>
    match g.blit target c x y with
    | .ok (drawn, pen) => characters g drawn y pen rest
    | .error fault => (target, some fault)

/-- Where a text starts along one axis: a negative position asks for the middle,
and positions above 65535 cannot be drawn at. -/
def textStart (axis : Axis) (position : Int) (middle : Nat) : Except Fault Nat :=
  if position < 0 then .ok middle
  else if 65535 < position then .error (.bounds (.textStart axis position))
  else .ok position.toNat

/-- Draws a line of text. A negative coordinate puts it in the middle along that
axis. The fault, if there is one, tells why the text was cut short. -/
def text (g : GlyphSheet) (target : Bitmap) (text : String) (x y : Int) :
    Bitmap × Option Fault :=
  match textStart .horizontal x (g.centeredX text target.width) with
  | .error fault => (target, some fault)
  | .ok left =>
    match textStart .vertical y (g.centeredY target.height) with
    | .error fault => (target, some fault)
    | .ok top => characters g target top left text.toList

@[simp] theorem size_barRow (target : Bitmap) (percent row index : Nat) :
    (barRow target percent row index).size = target.size := by
  unfold barRow
  generalize List.range barBytes = is
  induction is generalizing target with
  | nil => rfl
  | cons i rest ih => rw [List.foldl_cons, ih, Bitmap.size_modifyByte]

theorem size_of_progressBar {target drawn : Bitmap} {percent x y : Nat}
    (h : progressBar target percent x y = .ok drawn) : drawn.size = target.size := by
  unfold progressBar at h
  split at h
  · cases h
  split at h
  · cases h
  cases h
  rename_i wide tall
  clear wide tall
  generalize target.stride = stride
  generalize List.range barHeight = rows
  induction rows generalizing target with
  | nil => rfl
  | cons r rest ih => rw [List.foldl_cons, ih, size_barRow]

@[simp] theorem size_padlockRows (target : Bitmap) (x y : Nat) (rows : List UInt8) :
    (padlockRows target x y rows).size = target.size := by
  induction rows generalizing target y with
  | nil => rfl
  | cons glyph rest ih => rw [padlockRows, ih, Bitmap.size_stamp]

theorem size_of_padlock {target drawn : Bitmap} {rows : List UInt8} {x y : Nat}
    (h : padlock target rows x y = .ok drawn) : drawn.size = target.size := by
  unfold padlock at h
  split at h
  · cases h
  · cases h
    exact size_padlockRows ..

theorem size_of_verticalLine {target drawn : Bitmap} {x y size : Nat}
    (h : verticalLine target x y size = .ok drawn) : drawn.size = target.size := by
  unfold verticalLine at h
  split at h
  · cases h; rfl
  split at h
  · cases h
  cases h
  rename_i inside
  clear inside
  generalize List.range size = is
  induction is generalizing target with
  | nil => rfl
  | cons i rest ih => rw [List.foldl_cons, ih, Bitmap.size_setPixel]

@[simp] theorem size_characters (g : GlyphSheet) (target : Bitmap) (y x : Nat)
    (chars : List Char) : (characters g target y x chars).1.size = target.size := by
  induction chars generalizing target x with
  | nil => rfl
  | cons c rest ih =>
    unfold characters
    split
    · next h => rw [ih, GlyphSheet.size_of_blit h]
    · rfl

@[simp] theorem size_text (g : GlyphSheet) (target : Bitmap) (s : String) (x y : Int) :
    (text g target s x y).1.size = target.size := by
  unfold text
  split
  · rfl
  · split
    · rfl
    · exact size_characters ..

end LcdCompositor.Drawing
