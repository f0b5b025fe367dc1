import LcdCompositor.Fault

/-!
# Packed bitmaps

A bitmap holds one bit per pixel. Eight neighbours of a row share a byte, the
most significant bit being the leftmost, and rows are stored from top to bottom.
The width is a multiple of eight, so a row starts at a byte; both facts about the
bytes are fields, and every operation keeps them.

What a bitmap shows is `getPixel`: pixels outside are dark, and writes outside
are dropped.
-/

namespace LcdCompositor

/-- A picture of one bit per pixel. -/
structure Bitmap where
  size : Size
  bytes : Array UInt8
  aligned : size.width.toNat % 8 = 0
  bytes_size : bytes.size = size.packedLength

namespace Bitmap

instance : DecidableEq Bitmap := fun a b =>
  if h : a.size = b.size ∧ a.bytes = b.bytes then
    isTrue (by cases a; cases b; simp_all)
  else
    isFalse (by intro e; subst e; exact h ⟨rfl, rfl⟩)

theorem ext {a b : Bitmap} (hs : a.size = b.size) (hb : a.bytes = b.bytes) : a = b := by
  cases a; cases b; simp_all

/-- Columns. -/
def width (b : Bitmap) : Nat := b.size.width.toNat

/-- Rows. -/
def height (b : Bitmap) : Nat := b.size.height.toNat

/-- Bytes per row. -/
def stride (b : Bitmap) : Nat := b.size.stride

/-- A bitmap of the given bytes. The width has to fill whole bytes, and the
number of bytes has to be the one that the size asks for. -/
def ofBytes (size : Size) (bytes : Array UInt8) : Except Fault Bitmap :=
  if aligned : size.width.toNat % 8 = 0 then
    if h : bytes.size = size.packedLength then .ok ⟨size, bytes, aligned, h⟩
    else .error (.bounds (.byteCount size size.packedLength bytes.size))
  else .error (.format (.unalignedWidth size.width.toNat))

/-- A dark bitmap whose width is known to fill whole bytes. -/
def dark (size : Size) (aligned : size.width.toNat % 8 = 0) : Bitmap :=
  ⟨size, Array.replicate size.packedLength 0, aligned, Array.size_replicate⟩

/-- A dark bitmap of any size that can be packed. -/
def blank (size : Size) : Except Fault Bitmap :=
  if aligned : size.width.toNat % 8 = 0 then .ok (dark size aligned)
  else .error (.format (.unalignedWidth size.width.toNat))

/-- A dark content frame. -/
def blankFrame : Bitmap := dark Panel.size (by decide)

instance : Inhabited Bitmap := ⟨blankFrame⟩

/-- The byte that holds a pixel, if the pixel is inside. -/
def byteIndex (b : Bitmap) (x y : Nat) : Option Nat :=
  if x < b.width ∧ y < b.height then some (y * b.stride + x / 8) else none

/-- Whether bit `i` of a byte is set, counted from the most significant. -/
def bitFromLeft (byte : UInt8) (i : Nat) : Bool := byte.toNat.testBit (7 - i)

/-- The byte whose bit `i`, counted from the most significant, is the only one. -/
def singleBit (i : Nat) : UInt8 := (0x80 >>> i : Nat).toUInt8

/-- Whether a pixel is lit. Outside nothing is. -/
def getPixel (b : Bitmap) (x y : Nat) : Bool :=
  match b.byteIndex x y with
  | some i => bitFromLeft (b.bytes.getD i 0) (x % 8)
  | none => false

/-- Changes one byte; an index beyond the last byte changes nothing. -/
def modifyByte (b : Bitmap) (i : Nat) (f : UInt8 → UInt8) : Bitmap :=
  { b with bytes := b.bytes.modify i f, bytes_size := by simp [b.bytes_size] }

/-- Lights or darkens one pixel. -/
def setPixel (b : Bitmap) (x y : Nat) (on : Bool) : Bitmap :=
  match b.byteIndex x y with
  | some i =>
    let bit := singleBit (x % 8)
    b.modifyByte i fun byte => if on then byte ||| bit else byte &&& ~~~bit
  | none => b

/-- The same byte everywhere. -/
def fill (b : Bitmap) (byte : UInt8) : Bitmap :=
  { b with
    bytes := Array.replicate b.size.packedLength byte
    bytes_size := Array.size_replicate }

/-- Every pixel lit, or every pixel dark. -/
def paintAll (b : Bitmap) (on : Bool) : Bitmap := b.fill (if on then 0xff else 0)

/-- Every pixel dark. -/
def clear (b : Bitmap) : Bitmap := b.paintAll false

/-- Set bits of a byte. -/
def onesIn (byte : UInt8) : Nat :=
  (List.range 8).countP fun i => byte.toNat.testBit i

/-- Lit pixels. -/
def litCount (b : Bitmap) : Nat := b.bytes.foldl (fun n byte => n + onesIn byte) 0

/-- Overlays eight pixels that start at `(x, y)`: pixels under `mask` are cleared
and then the set bits of `bits` are lit. When `x` is not at a byte the overlay
covers the end of one byte and the start of the next; what would pass the right
edge is dropped. -/
def stamp (b : Bitmap) (x y : Nat) (mask bits : UInt8) : Bitmap :=
  let shift := x % 8
  let column := x / 8
  let index := y * b.stride + column
  let wideMask := mask.toNat <<< (8 - shift)
  let wideBits := bits.toNat <<< (8 - shift)
  let first := b.modifyByte index fun byte =>
    (byte &&& ~~~(wideMask >>> 8).toUInt8) ||| (wideBits >>> 8).toUInt8
  if 0 < shift ∧ column + 1 < b.stride then
    first.modifyByte (index + 1) fun byte =>
      (byte &&& ~~~wideMask.toUInt8) ||| wideBits.toUInt8
  else first

theorem ofBytes_eq_ok_iff {size : Size} {bytes : Array UInt8} {b : Bitmap} :
    ofBytes size bytes = .ok b ↔ b.size = size ∧ b.bytes = bytes := by
  rw [ofBytes]
  constructor
  · intro made
    split at made
    · split at made
      · cases made
        exact ⟨rfl, rfl⟩
      · cases made
    · cases made
  · rintro ⟨rfl, rfl⟩
    rw [dif_pos b.aligned, dif_pos b.bytes_size]

theorem blank_eq_ok_iff {size : Size} {b : Bitmap} :
    blank size = .ok b ↔ b.size = size ∧ b.bytes = Array.replicate size.packedLength 0 := by
  rw [blank]
  constructor
  · intro made
    split at made
    · cases made
      exact ⟨rfl, rfl⟩
    · cases made
  · rintro ⟨rfl, dark⟩
    rw [dif_pos b.aligned]
    exact congrArg Except.ok (ext rfl dark.symm)

@[simp] theorem size_modifyByte (b : Bitmap) (i : Nat) (f : UInt8 → UInt8) :
    (b.modifyByte i f).size = b.size := rfl

@[simp] theorem size_setPixel (b : Bitmap) (x y : Nat) (on : Bool) :
    (b.setPixel x y on).size = b.size := by
  unfold setPixel
  split <;> rfl

@[simp] theorem size_fill (b : Bitmap) (byte : UInt8) : (b.fill byte).size = b.size := rfl

@[simp] theorem size_clear (b : Bitmap) : b.clear.size = b.size := rfl

@[simp] theorem size_stamp (b : Bitmap) (x y : Nat) (mask bits : UInt8) :
    (b.stamp x y mask bits).size = b.size := by
  unfold stamp
  dsimp only
  split <;> rfl

end Bitmap

end LcdCompositor
