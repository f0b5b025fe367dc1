import LcdCompositor.Proofs.Bitmap.Pixel
import LcdCompositor.Proofs.Report.Layout

/-!
# The image in a report

An image is read in bands: column `x` of row `y` is bit `y % 8` of byte `x` of band
`y / 8`. The image of a bitmap shows exactly what the bitmap shows, and there is no
other image of its length that does. So nothing that was in the destination before
is left, and different bitmaps of one size have different images.
-/

namespace LcdCompositor

/-- In blocks of one length every place is found by its block and its place in the block. -/
theorem getElem?_flatMap_range {α : Type} {f : Nat → List α} {width : Nat}
    (block : ∀ i, (f i).length = width) {count i x : Nat} (hi : i < count) (hx : x < width) :
    ((List.range count).flatMap f)[i * width + x]? = (f i)[x]? := by
  have length := length_flatMap_range block
  induction count with
  | zero => omega
  | succ count ih =>
    rw [List.range_succ, List.flatMap_append, List.flatMap_singleton]
    by_cases last : i = count
    · subst last
      rw [List.getElem?_append_right (by rw [length]; omega), length, Nat.add_sub_cancel_left]
    · have before : i < count := by omega
      have room : i * width + x < count * width := by
        calc i * width + x < i * width + width := by omega
          _ = (i + 1) * width := (Nat.succ_mul i width).symm
          _ ≤ count * width := Nat.mul_le_mul_right width before
      rw [List.getElem?_append_left (by rwa [length]), ih before]

/-- A sum of different powers of two has their bits. -/
theorem testBit_sum (p : Nat → Bool) (count : Nat) :
    let sum := (List.range count).foldl (fun sum n => sum + if p n then Nat.pow 2 n else 0) 0
    sum < 2 ^ count ∧ ∀ n < count, sum.testBit n = p n := by
  induction count with
  | zero => exact ⟨Nat.one_pos, fun n below => absurd below (Nat.not_lt_zero n)⟩
  | succ count ih =>
    obtain ⟨small, bits⟩ := ih
    simp only [List.range_succ, List.foldl_append, List.foldl_cons, List.foldl_nil]
    generalize (List.range count).foldl _ 0 = sum at small bits ⊢
    change sum + (if p count then 2 ^ count else 0) < _ ∧ ∀ n < count + 1,
      (sum + if p count then 2 ^ count else 0).testBit n = p n
    have top : sum.testBit count = false := Nat.testBit_lt_two_pow small
    cases set : p count with
    | false =>
      refine ⟨Nat.lt_of_lt_of_le small (Nat.pow_le_pow_right (by decide) (by omega)), ?_⟩
      intro n below
      rcases Nat.lt_succ_iff_lt_or_eq.mp below with before | rfl
      · exact bits n before
      · rw [set]
        exact top
    | true =>
      rw [if_pos rfl, Nat.add_comm, Nat.pow_succ]
      refine ⟨by omega, ?_⟩
      intro n below
      rcases Nat.lt_succ_iff_lt_or_eq.mp below with before | rfl
      · rw [Nat.testBit_two_pow_add_gt before]
        exact bits n before
      · rw [Nat.testBit_two_pow_add_eq, top, set]
        rfl

namespace Bitmap

variable (b : Bitmap)

/-- Bit `n` of a column is row `n` of its band. -/
theorem testBit_columnByte (band x : Nat) {n : Nat} (hn : n < 8) :
    (b.columnByte band x).toNat.testBit n = b.getPixel x (8 * band + n) := by
  obtain ⟨_, bits⟩ := testBit_sum (fun n => b.getPixel x (8 * band + n)) 8
  rw [columnByte]
  change (_ % 2 ^ 8 : Nat).testBit n = _
  rw [Nat.testBit_mod_two_pow, decide_eq_true hn, Bool.true_and]
  exact bits n hn

theorem getElem?_columnBytes {band x : Nat} (hband : band < b.height / 8) (hx : x < b.width) :
    b.columnBytes[band * b.width + x]? = some (b.columnByte band x) := by
  rw [columnBytes, getElem?_flatMap_range b.length_band hband hx,
    List.getElem?_map, List.getElem?_range hx, Option.map_some]

end Bitmap

namespace Report

/-- What an image in bands of the given width shows at column `x` and row `y`. -/
def bandPixel (width : Nat) (image : List UInt8) (x y : Nat) : Bool :=
  (image.getD (y / 8 * width + x) 0).toNat.testBit (y % 8)

/-- The image of a bitmap shows what the bitmap shows. -/
theorem bandPixel_columnBytes (b : Bitmap) {x y : Nat} (bands : b.height % 8 = 0)
    (hx : x < b.width) (hy : y < b.height) :
    bandPixel b.width b.columnBytes x y = b.getPixel x y := by
  have row : y % 8 < 8 := Nat.mod_lt y (by decide)
  rw [bandPixel, List.getD_eq_getElem?_getD, b.getElem?_columnBytes (by omega) hx,
    Option.getD_some, b.testBit_columnByte (y / 8) x row, Nat.div_add_mod]

/-- An image of whole bands is what it shows. -/
theorem image_ext {width bands : Nat} {image other : List UInt8}
    (length : image.length = bands * width) (length' : other.length = bands * width)
    (same : ∀ x y, x < width → y < 8 * bands →
      bandPixel width image x y = bandPixel width other x y) : image = other := by
  apply List.ext_getElem (length.trans length'.symm)
  intro i hi hi'
  have pos : 0 < width := Nat.pos_of_ne_zero (by rintro rfl; simp at length; omega)
  have band : i / width < bands := Nat.div_lt_of_lt_mul (by rw [Nat.mul_comm]; omega)
  have column : i % width < width := Nat.mod_lt i pos
  apply Bitmap.eq_of_testBit
  intro n hn
  have pixel := same (i % width) (8 * (i / width) + n) column (by omega)
  have row : (8 * (i / width) + n) / 8 = i / width := by omega
  have bit : (8 * (i / width) + n) % 8 = n := by omega
  simpa [bandPixel, row, bit, Nat.div_add_mod', hi, hi'] using pixel

/-- When an image is made, and which one. -/
theorem transcode_eq_ok_iff {destination image : List UInt8} {source : Bitmap} :
    transcode destination source = .ok image ↔
      (source.height % 8 = 0 ∧ destination.length = source.height / 8 * source.width) ∧
        image = source.columnBytes := by
  rw [transcode]
  split
  next refused =>
    constructor
    · intro made
      cases made
    · rintro ⟨fits, _⟩
      omega
  next fits =>
    constructor
    · intro made
      cases made
      exact ⟨by omega, rfl⟩
    · rintro ⟨_, rfl⟩
      rfl

end Report

end LcdCompositor
