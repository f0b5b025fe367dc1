import LcdCompositor.Bitmap.Shape
import LcdCompositor.Drawing
import LcdCompositor.Proofs.Bitmap.Pixel
import Mathlib.Algebra.BigOperators.Group.Finset.Piecewise
import Mathlib.Algebra.BigOperators.Group.Finset.Sigma
import Mathlib.Data.Set.Function

/-!
# Every bit is a pixel

A bitmap has as many bits as it has pixels, at any size: a pixel has a place among the bits,
and every bit is the place of one pixel. So no bit is left over that could tell two bitmaps
apart that show the same, and the number of set bits is the number of lit pixels.

The size is the one that a bitmap was made at. Whatever is done to the bitmap, by setting pixels,
by drawing or by writing into its bytes, its size and the number of its bytes stay.
-/

namespace LcdCompositor.Bitmap

section Places

/-- The pixels inside. -/
def pixels (b : Bitmap) : Finset (Nat × Nat) := Finset.range b.width ×ˢ Finset.range b.height

/-- The bits of all bytes. A bit has the index of its byte, and its weight there. -/
def bits (b : Bitmap) : Finset (Nat × Nat) := Finset.range b.bytes.size ×ˢ Finset.range 8

/-- Whether a bit is set. -/
def bit (b : Bitmap) (place : Nat × Nat) : Bool :=
  (b.bytes.getD place.1 0).toNat.testBit place.2

/-- The bit of a pixel. -/
def place (b : Bitmap) (pixel : Nat × Nat) : Nat × Nat :=
  (pixel.2 * b.stride + pixel.1 / 8, 7 - pixel.1 % 8)

/-- The pixel of a bit. -/
def pixelAt (b : Bitmap) (place : Nat × Nat) : Nat × Nat :=
  (8 * (place.1 % b.stride) + (7 - place.2), place.1 / b.stride)

variable {b : Bitmap} {pixel place : Nat × Nat}

@[simp] theorem mem_pixels : pixel ∈ b.pixels ↔ pixel.1 < b.width ∧ pixel.2 < b.height := by
  simp [pixels]

@[simp] theorem mem_bits : place ∈ b.bits ↔ place.1 < b.bytes.size ∧ place.2 < 8 := by
  simp [bits]

theorem place_mem (inside : pixel ∈ b.pixels) : b.place pixel ∈ b.bits := by
  obtain ⟨wide, tall⟩ := mem_pixels.mp inside
  apply mem_bits.mpr
  refine ⟨index_lt wide tall, ?_⟩
  change 7 - pixel.1 % 8 < 8
  omega

theorem pixelAt_mem (inside : place ∈ b.bits) : b.pixelAt place ∈ b.pixels := by
  obtain ⟨there, weight⟩ := mem_bits.mp inside
  obtain ⟨column, row⟩ := grid_of_byte there
  have width := b.width_eq
  apply mem_pixels.mpr
  refine ⟨?_, row⟩
  change 8 * (place.1 % b.stride) + (7 - place.2) < b.width
  omega

theorem pixelAt_place (inside : pixel ∈ b.pixels) : b.pixelAt (b.place pixel) = pixel := by
  obtain ⟨wide, -⟩ := mem_pixels.mp inside
  have width := b.width_eq
  have column : pixel.1 / 8 < b.stride := by omega
  have before : (pixel.2 * b.stride + pixel.1 / 8) % b.stride = pixel.1 / 8 := by
    rw [Nat.mul_add_mod', Nat.mod_eq_of_lt column]
  have above : (pixel.2 * b.stride + pixel.1 / 8) / b.stride = pixel.2 := by
    rw [Nat.mul_comm, Nat.mul_add_div (by omega), Nat.div_eq_of_lt column, Nat.add_zero]
  apply Prod.ext
  · change 8 * ((pixel.2 * b.stride + pixel.1 / 8) % b.stride) + (7 - (7 - pixel.1 % 8)) = pixel.1
    omega
  · exact above

theorem place_pixelAt (inside : place ∈ b.bits) : b.place (b.pixelAt place) = place := by
  obtain ⟨-, weight⟩ := mem_bits.mp inside
  have column : (8 * (place.1 % b.stride) + (7 - place.2)) / 8 = place.1 % b.stride := by omega
  apply Prod.ext
  · change place.1 / b.stride * b.stride + (8 * (place.1 % b.stride) + (7 - place.2)) / 8 = place.1
    rw [column, Nat.div_add_mod']
  · change 7 - (8 * (place.1 % b.stride) + (7 - place.2)) % 8 = place.2
    omega

/-- Different pixels have different bits, and every bit is that of a pixel. -/
theorem bijOn_place (b : Bitmap) : Set.BijOn b.place b.pixels b.bits := by
  have inverse : Set.InvOn b.pixelAt b.place b.pixels b.bits :=
    ⟨fun _ inside => pixelAt_place inside, fun _ inside => place_pixelAt inside⟩
  apply inverse.bijOn
  · intro pixel inside
    exact place_mem inside
  · intro place inside
    exact pixelAt_mem inside

/-- What a pixel shows is its bit. -/
theorem bit_place (inside : pixel ∈ b.pixels) :
    b.bit (b.place pixel) = b.getPixel pixel.1 pixel.2 := by
  obtain ⟨wide, tall⟩ := mem_pixels.mp inside
  exact (getPixel_of_inside wide tall).symm

end Places

section Counts

theorem onesIn_eq (byte : UInt8) :
    onesIn byte = ∑ weight ∈ Finset.range 8, if byte.toNat.testBit weight = true then 1 else 0 := by
  rw [← Finset.card_filter]
  simp [onesIn, Finset.card_def, Multiset.range, List.countP_eq_length_filter]

theorem foldl_onesIn (bytes : List UInt8) (count : Nat) :
    bytes.foldl (fun n byte => n + onesIn byte) count =
      count + ∑ i ∈ Finset.range bytes.length, onesIn (bytes.getD i 0) := by
  induction bytes generalizing count with
  | nil => simp
  | cons byte rest ih =>
    rw [List.foldl_cons, ih, List.length_cons, Finset.sum_range_succ']
    simp only [List.getD_cons_succ, List.getD_cons_zero]
    omega

theorem litCount_eq_sum (b : Bitmap) :
    b.litCount = ∑ i ∈ Finset.range b.bytes.size, onesIn (b.bytes.getD i 0) := by
  rw [litCount, ← Array.foldl_toList, foldl_onesIn]
  simp

/-- Byte by byte all set bits are counted. -/
theorem litCount_eq_card_bits (b : Bitmap) :
    b.litCount = (b.bits.filter fun place => b.bit place = true).card := by
  calc b.litCount
      = ∑ i ∈ Finset.range b.bytes.size, onesIn (b.bytes.getD i 0) := b.litCount_eq_sum
    _ = ∑ i ∈ Finset.range b.bytes.size, ∑ weight ∈ Finset.range 8,
          if b.bit (i, weight) = true then 1 else 0 :=
        Finset.sum_congr rfl fun i _ => onesIn_eq (b.bytes.getD i 0)
    _ = ∑ place ∈ b.bits, if b.bit place = true then 1 else 0 := by rw [bits, Finset.sum_product]
    _ = (b.bits.filter fun place => b.bit place = true).card := (Finset.card_filter ..).symm

/-- The number of set bits is the number of lit pixels. -/
theorem litCount_eq_card_pixels (b : Bitmap) :
    b.litCount = (b.pixels.filter fun pixel => b.getPixel pixel.1 pixel.2 = true).card := by
  rw [litCount_eq_card_bits]
  symm
  apply Finset.card_nbij b.place
  · intro pixel lit
    obtain ⟨inside, shown⟩ := Finset.mem_filter.mp lit
    exact Finset.mem_filter.mpr ⟨place_mem inside, (bit_place inside).trans shown⟩
  · exact b.bijOn_place.injOn.mono (Finset.filter_subset ..)
  · intro place set
    obtain ⟨there, shown⟩ := Finset.mem_filter.mp set
    obtain ⟨pixel, inside, rfl⟩ := b.bijOn_place.surjOn there
    exact ⟨pixel, Finset.mem_filter.mpr ⟨inside, (bit_place inside).symm.trans shown⟩, rfl⟩

end Counts

section Operations

/-- One operation on a bitmap: a pixel is set, a byte is written, points or shapes are drawn. A
shape that is refused is not drawn, and the first character that is refused ends a text. -/
inductive Step (b : Bitmap) : Bitmap → Prop
  | set (x y : Nat) (on : Bool) : Step b (b.setPixel x y on)
  | rewrite (i : Nat) (f : UInt8 → UInt8) : Step b (b.modifyByte i f)
  | fill (byte : UInt8) : Step b (b.fill byte)
  | clear : Step b b.clear
  | paint (on : Bool) : Step b (b.paintAll on)
  | plot (dots : List Dot) : Step b (b.plot dots)
  | rectangle (r : Rectangle) (on : Bool) : Step b (b.fillRectangle r on)
  | outline (r : Rectangle) (on : Bool) : Step b (b.outlineRectangle r on)
  | glyph (g : GlyphSheet) (c : Char) (x y pen : Nat) {new : Bitmap}
      (drew : g.blit b c x y = .ok (new, pen)) : Step b new
  | text (g : GlyphSheet) (s : String) (x y : Int) : Step b (Drawing.text g b s x y).1
  | bar (percent x y : Nat) {new : Bitmap}
      (drew : Drawing.progressBar b percent x y = .ok new) : Step b new
  | padlock (rows : List UInt8) (x y : Nat) {new : Bitmap}
      (drew : Drawing.padlock b rows x y = .ok new) : Step b new
  | line (x y length : Nat) {new : Bitmap}
      (drew : Drawing.verticalLine b x y length = .ok new) : Step b new

/-- The bitmaps of a size: what is made at it, dark or of given bytes, and what any number of
operations leave of that. -/
inductive Made (size : Size) : Bitmap → Prop
  | dark {b : Bitmap} (made : blank size = .ok b) : Made size b
  | frame (panel : size = Panel.size) : Made size blankFrame
  | packed (bytes : Array UInt8) {b : Bitmap} (made : ofBytes size bytes = .ok b) : Made size b
  | step {old new : Bitmap} (made : Made size old) (step : old.Step new) : Made size new

variable {size : Size} {b old new : Bitmap}

theorem size_of_step (step : old.Step new) : new.size = old.size := by
  cases step with
  | set x y on => exact size_setPixel ..
  | rewrite | fill | clear | paint => rfl
  | plot dots => exact size_plot ..
  | rectangle r on => exact size_paintWhere ..
  | outline r on => exact size_paintWhere ..
  | glyph g c x y pen drew => exact GlyphSheet.size_of_blit drew
  | text g s x y => exact Drawing.size_text ..
  | bar percent x y drew => exact Drawing.size_of_progressBar drew
  | padlock rows x y drew => exact Drawing.size_of_padlock drew
  | line x y length drew => exact Drawing.size_of_verticalLine drew

/-- A bitmap keeps the size that it was made at. -/
theorem size_of_made (made : Made size b) : b.size = size := by
  induction made with
  | dark made => exact (blank_eq_ok_iff.mp made).1
  | frame panel => exact panel.symm
  | packed bytes made => exact (ofBytes_eq_ok_iff.mp made).1
  | step made step ih => exact (size_of_step step).trans ih

end Operations

/-- A bitmap can be made at any width that fills whole bytes and at any height, dark or of as
many bytes as there are in its rows. Whatever is done to it then, it has this size and as many
bytes. A pixel that is set shows what it was set to, every other one what it showed before, and
outside there is nothing to set. Two bitmaps of the size are the same if their pixels show the
same. The set bits that are counted are the lit pixels. -/
theorem made_faithful (size : Size) :
    (size.width.toNat % 8 = 0 →
      (∃ b, blank size = .ok b ∧
        b.bytes = Array.replicate (size.width.toNat / 8 * size.height.toNat) 0) ∧
      ∀ bytes : Array UInt8, (∃ b, ofBytes size bytes = .ok b ∧ b.bytes = bytes) ↔
        bytes.size = size.width.toNat / 8 * size.height.toNat) ∧
    ∀ b, Made size b →
      (b.size = size ∧ b.bytes.size = size.width.toNat / 8 * size.height.toNat) ∧
      (∀ x y on px py, (b.setPixel x y on).getPixel px py =
        if px = x ∧ py = y ∧ x < size.width.toNat ∧ y < size.height.toNat then on
        else b.getPixel px py) ∧
      (∀ c, Made size c → (b = c ↔ ∀ x < size.width.toNat, ∀ y < size.height.toNat,
        b.getPixel x y = c.getPixel x y)) ∧
      b.litCount = (Finset.filter (fun pixel => b.getPixel pixel.1 pixel.2 = true)
        (Finset.range size.width.toNat ×ˢ Finset.range size.height.toNat)).card := by
  refine ⟨fun aligned => ⟨?dark, fun bytes => ⟨?refused, ?packed⟩⟩, fun b made => ?shown⟩
  case dark => exact ⟨dark size aligned, blank_eq_ok_iff.mpr ⟨rfl, rfl⟩, rfl⟩
  case refused =>
    rintro ⟨b, made, rfl⟩
    obtain ⟨rfl, -⟩ := ofBytes_eq_ok_iff.mp made
    exact b.bytes_size
  case packed =>
    intro length
    exact ⟨⟨size, bytes, aligned, length⟩, ofBytes_eq_ok_iff.mpr ⟨rfl, rfl⟩, rfl⟩
  case shown =>
    obtain rfl := size_of_made made
    refine ⟨⟨rfl, b.bytes_size⟩, b.getPixel_setPixel, fun c other => ⟨?_, ?_⟩,
      b.litCount_eq_card_pixels⟩
    · rintro rfl x wide y tall
      rfl
    · intro same
      apply ext_getPixel (size_of_made other).symm
      intro x y wide tall
      exact same x wide y tall

/-- Two pixels that are set one by one, and a third one beyond the right edge, which would be the
first one of the next row; and the same picture from its bytes. -/
theorem made_faithful_sixteen :
    let size : Size := ⟨16, 2⟩
    let b := (((Bitmap.dark size (by decide)).setPixel 0 0 true).setPixel 9 1 true).setPixel
      16 0 true
    let c : Bitmap := ⟨size, #[0x80, 0, 0, 0x40], by decide, by decide⟩
    (size.width.toNat % 8 = 0 ∧ ∃ d, blank size = .ok d ∧ d.bytes = #[0, 0, 0, 0]) ∧
      Made size b ∧ Made size c ∧ b.bytes.size = 4 ∧
      (b.setPixel 9 1 false).getPixel 9 1 = false ∧ b = c ∧
      (Finset.filter (fun pixel => b.getPixel pixel.1 pixel.2 = true)
        (Finset.range 16 ×ˢ Finset.range 2)).card = 2 := by
  intro size b c
  have aligned : size.width.toNat % 8 = 0 := by decide
  have start : blank size = .ok (Bitmap.dark size aligned) := blank_eq_ok_iff.mpr ⟨rfl, rfl⟩
  have single : Made size b :=
    (((Made.dark start).step (.set 0 0 true)).step (.set 9 1 true)).step (.set 16 0 true)
  have packed : Made size c := .packed #[0x80, 0, 0, 0x40] (ofBytes_eq_ok_iff.mpr ⟨rfl, rfl⟩)
  have four : size.width.toNat / 8 * size.height.toNat = 4 := by decide
  obtain ⟨construction, bitmaps⟩ := made_faithful size
  obtain ⟨d, made, dark⟩ := (construction aligned).1
  obtain ⟨⟨-, length⟩, set, same, count⟩ := bitmaps b single
  refine ⟨⟨aligned, d, made, dark.trans (by rw [four]; rfl)⟩, single, packed, length.trans four,
    set 9 1 false 9 1, (same c packed).mpr ?_, ?_⟩
  · decide +kernel
  · exact count.symm.trans (by decide +kernel)

end LcdCompositor.Bitmap
