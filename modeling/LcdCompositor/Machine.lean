import LcdCompositor.Drawing
import LcdCompositor.Machine.Word
import LcdCompositor.Report.InPlace

/-!
# Drawing with machine words

The drawings take numbers without a bound, and for them a byte that is not there reads as zero
and is not written. A machine has sixteen bits for a position and stops at an index outside its
memory. Here all that draws on a bitmap is done once more, loop by loop and with every check that
the machine makes: what is kept in sixteen bits is added and subtracted with `add` and `sub`,
bytes are shifted by less than eight places, and bytes are read and written where there are any.

Only sums that are made in sixteen bits are checked. Rows and bytes are counted in wider words,
which the numbers of a bitmap do not fill.
-/

namespace LcdCompositor.Machine

def read (bytes : Array UInt8) (i : Nat) : Machine UInt8 :=
  if i < bytes.size then .ok (bytes.getD i 0) else .error (.outside i bytes.size)

def store (bytes : List UInt8) (i : Nat) (byte : UInt8) : Machine (List UInt8) :=
  if i < bytes.length then .ok (bytes.set i byte) else .error (.outside i bytes.length)

/-- Changes one byte of a bitmap. -/
def alter (b : Bitmap) (i : Nat) (f : UInt8 → UInt8) : Machine Bitmap :=
  if i < b.bytes.size then .ok (b.modifyByte i f) else .error (.outside i b.bytes.size)

/-- Bytes that are worked on together have to be there up to the last one. -/
def window (b : Bitmap) (start count : Nat) : Machine Unit :=
  if start + count ≤ b.bytes.size then .ok () else .error (.outside (start + count) b.bytes.size)

/-- Lights or darkens one pixel. -/
def setPixel (b : Bitmap) (x y : Nat) (on : Bool) : Machine Bitmap :=
  match b.byteIndex x y with
  | none => .ok b
  | some i => do
    let bit ← shiftRight 0x80 (x % 8)
    alter b i fun byte => if on then byte ||| bit else byte &&& ~~~bit

/-- Clears the bits under a mask and then lights those of `bits`. -/
def overlay (b : Bitmap) (i : Nat) (mask bits : UInt8) : Machine Bitmap := do
  let cleared ← alter b i fun byte => byte &&& ~~~mask
  alter cleared i fun byte => byte ||| bits

/-- Overlays eight pixels that start `shift` pixels behind a byte of a row. What passes the byte
comes into the next one of the row, if there is one. -/
def stamp (b : Bitmap) (row column shift : Nat) (mask bits : UInt8) : Machine Bitmap := do
  let i := row * b.stride + column
  let front ← overlay b i (← shiftRight mask shift) (← shiftRight bits shift)
  if 0 < shift ∧ column + 1 < b.stride then do
    let spill ← sub 8 shift
    overlay front (i + 1) (← shiftLeft mask spill) (← shiftLeft bits spill)
  else pure front

section Glyphs

variable (g : GlyphSheet)

def cellMask : Machine UInt8 :=
  if g.cellWidth % 8 = 0 then pure 0xff else do shiftLeft 0xff (← sub 8 g.cellWidth)

def advance (c : Char) : Machine Nat := do
  let step ← sub g.cellWidth g.spec.leftShift
  if 0 < g.spec.extraShift ∧ c ∉ GlyphSheet.wideLetters then sub step g.spec.extraShift
  else pure step

/-- The sum of the advances. It stays at the limit once it has reached it. -/
def textWidth (text : String) : Machine Nat :=
  text.toList.foldlM (fun sum c => do
    return min (sum + (← advance g c)) GlyphSheet.widthLimit) 0

def centeredX (text : String) (frameWidth : Nat) : Machine Nat := do
  return (frameWidth - (← textWidth g text)) / 2

/-- Whether something of a size fits in behind a position. -/
def fits (limit size position : Nat) : Machine Bool :=
  if limit < size then pure false
  else do return position ≤ (← sub limit size)

/-- Overlays the bytes of one line of a glyph. -/
def blitLine (target : Bitmap) (cell : Cell) (mask : UInt8) (x y line : Nat) :
    Machine Bitmap := do
  let row ← add y line
  (List.range g.cellBytes).foldlM (fun b offset =>
    stamp b row (x / 8 + offset) (x % 8) mask (g.glyphRow cell line offset)) target

def blitCell (target : Bitmap) (cell : Cell) (x y : Nat) : Machine Bitmap := do
  let mask ← cellMask g
  (List.range g.cellHeight).foldlM (fun b line => blitLine g b cell mask x y line) target

/-- Draws one character and returns where the pen stands behind it. -/
def blit (target : Bitmap) (c : Char) (x y : Nat) : Machine (Except Fault (Bitmap × Nat)) :=
  match g.cell c with
  | none => pure (.error (.unknownCharacter c))
  | some cell => do
    if !(← fits target.width g.cellWidth x) then
      pure (.error (.bounds (.glyph .horizontal x c (target.width - g.cellWidth))))
    else if !(← fits target.height g.cellHeight y) then
      pure (.error (.bounds (.glyph .vertical y c (target.height - g.cellHeight))))
    else
      let drawn ← blitCell g target cell x y
      let pen ← add x (← advance g c)
      pure (.ok (drawn, pen))

/-- Draws characters from a pen position on, and says why it stopped early. -/
def characters (target : Bitmap) (y : Nat) :
    Nat → List Char → Machine (Bitmap × Option Fault)
  | _, [] => pure (target, none)
  | x, c :: rest => do
    match ← blit g target c x y with
    | .ok (drawn, pen) => characters drawn y pen rest
    | .error fault => pure (target, some fault)

/-- Where a text starts along one axis. The middle is looked for only if it is asked for. -/
def textStart (axis : Axis) (position : Int) (middle : Machine Nat) :
    Machine (Except Fault Nat) :=
  if position < 0 then do return .ok (← middle)
  else pure (Drawing.textStart axis position 0)

/-- Draws a line of text. -/
def text (target : Bitmap) (text : String) (x y : Int) : Machine (Bitmap × Option Fault) := do
  match ← textStart .horizontal x (centeredX g text target.width) with
  | .error fault => pure (target, some fault)
  | .ok left =>
    match ← textStart .vertical y (pure (g.centeredY target.height)) with
    | .error fault => pure (target, some fault)
    | .ok top => characters g target top left text.toList

end Glyphs

section Shapes

open Drawing

/-- The patterns of a bar, by their place. -/
def ditherPatterns : Array UInt8 := #[0xaa, 0x55]

/-- Writes one row of a bar, which is filled up to `percent` and whose last filled byte is cut
off by `cut`. The borders of the rows between the first and the last one come over the fill. -/
def barRow (target : Bitmap) (percent : Nat) (cut : UInt8) (row index : Nat) :
    Machine Bitmap := do
  window target index barBytes
  if row = 0 ∨ row = barHeight - 1 then do
    let solid ← (List.range (barBytes - 1)).foldlM (fun b i =>
      alter b (index + i) fun _ => 0xff) target
    alter solid (index + (barBytes - 1)) fun _ => 0xfc
  else do
    let pattern ← read ditherPatterns ((row - 1) % 2)
    let filled ← (List.range barBytes).foldlM (fun b i =>
      alter b (index + i) fun _ =>
        if i < percent / 8 then pattern else if i = percent / 8 then pattern &&& cut else 0) target
    let bordered ← alter filled index (· ||| 0x80)
    alter bordered (index + (barBytes - 1)) (· ||| 0x04)

/-- Draws a bar with its top at `y`. -/
def progressBar (target : Bitmap) (percent x y : Nat) : Machine (Except Fault Bitmap) :=
  if target.width < x + barWidth then pure (.error (.bounds (.barTooWide x)))
  else if target.stride < x / 8 + barBytes ∨
      target.bytes.size ≤ barEnd target.stride x y then
    pure (.error (.bounds (.barOutside x y)))
  else do
    let percent := min percent 100
    let cut ← shiftLeft 0xff (← sub 7 (percent % 8))
    let drawn ← (List.range barHeight).foldlM (fun b row =>
      barRow b percent cut row ((y + row) * target.stride + x / 8)) target
    pure (.ok drawn)

/-- Overlays the rows of a padlock from row `y` down. -/
def padlockRows (target : Bitmap) (x y : Nat) : List UInt8 → Machine Bitmap
  | [] => pure target
  | glyph :: rest => do
    let drawn ← stamp target y (x / 8) (x % 8) Padlock.mask glyph
    padlockRows drawn x (y + 1) rest

/-- Draws the rows of a padlock. On a bitmap that is less than eight pixels wide the first check
lets a padlock through that the memory has no byte for. -/
def padlock (target : Bitmap) (rows : List UInt8) (x y : Nat) :
    Machine (Except Fault Bitmap) :=
  if target.width - padlockWidth < x ∨ target.height < y + rows.length then
    pure (.error (.bounds (.padlockOutside x y)))
  else do return .ok (← padlockRows target x y rows)

/-- Lights the pixel of a line in one row. -/
def lineRow (b : Bitmap) (bit : UInt8) (x row : Nat) : Machine Bitmap :=
  match b.byteIndex x row with
  | some i => alter b i (· ||| bit)
  | none => pure b

/-- Lights `size` pixels from `(x, y)` down. -/
def verticalLine (target : Bitmap) (x y size : Nat) : Machine (Except Fault Bitmap) :=
  if size = 0 then pure (.ok target)
  else do
    let bottom ← sub (y + size) 1
    if target.width ≤ x ∨ target.height ≤ bottom then
      pure (.error (.bounds (.lineOutside x y bottom)))
    else
      let bit ← shiftRight 0x80 (x % 8)
      let stop ← add y size
      let drawn ← (List.range' y (stop - y)).foldlM (fun b row => lineRow b bit x row) target
      pure (.ok drawn)

end Shapes

section Images

variable (source : Bitmap)

/-- Eight pixels of a column, gathered from the bytes of the eight rows of a band. -/
def gather (band column bit : Nat) : Machine UInt8 :=
  (List.range 8).foldlM (fun sum n => do
    let byte ← read source.bytes ((band * 8 + n) * source.stride + column)
    let pixel ← shiftRight byte bit
    return sum ||| (← shiftLeft (pixel &&& 1) n)) 0

/-- Writes the eight columns that share a byte in a row. The leftmost one is the most
significant bit. -/
def writeColumns (band column : Nat) (destination : List UInt8) : Machine (List UInt8) :=
  (List.range 8).reverse.foldlM (fun written bit => do
    let byte ← gather source band column bit
    store written (band * source.width + column * 8 + (← sub 7 bit)) byte) destination

def writeBand (band : Nat) (destination : List UInt8) : Machine (List UInt8) :=
  (List.range source.stride).foldlM (fun written column =>
    writeColumns source band column written) destination

/-- Writes the image of a bitmap over a destination. -/
def writeImage (destination : List UInt8) : Machine (List UInt8 × Option Fault) :=
  if source.height % 8 ≠ 0 ∨ destination.length ≠ source.height / 8 * source.width then
    pure (destination, some (.bounds (.imageLength source.size destination.length)))
  else do
    return (← (List.range (source.height / 8)).foldlM (fun written band =>
      writeBand source band written) destination, none)

end Images

end LcdCompositor.Machine
