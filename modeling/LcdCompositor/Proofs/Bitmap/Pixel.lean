import LcdCompositor.Bitmap
import Mathlib.Data.Nat.Bitwise

/-!
# What a bitmap shows

Pixels outside are dark, and a pixel inside is one bit of one byte. Two bitmaps of one
size that show the same are the same.

An overlay acts on one row: `getPixel_stamp` says which pixels it changes, and to what,
at any column. Everything that is drawn by overlays is read off this law, and nothing
about bytes is needed after it. What is drawn in several steps is read off
`getPixel_steps`.
-/

namespace LcdCompositor.Bitmap

section Bits

/-- Masks above one byte do not matter. -/
theorem bitFromLeft_toUInt8 (n : Nat) (i : Nat) :
    bitFromLeft n.toUInt8 i = n.testBit (7 - i) := by
  have low : 7 - i < 8 := by omega
  change (n % 2 ^ 8).testBit (7 - i) = n.testBit (7 - i)
  rw [Nat.testBit_mod_two_pow, decide_eq_true low, Bool.true_and]

theorem bitFromLeft_and (a b : UInt8) (i : Nat) :
    bitFromLeft (a &&& b) i = (bitFromLeft a i && bitFromLeft b i) := by
  simp [bitFromLeft]

theorem bitFromLeft_or (a b : UInt8) (i : Nat) :
    bitFromLeft (a ||| b) i = (bitFromLeft a i || bitFromLeft b i) := by
  simp [bitFromLeft]

/-- A byte moved to the left loses its first bits and is filled up with dark ones. -/
theorem bitFromLeft_shiftLeft (byte amount : UInt8) {i : Nat} (hi : i < 8) :
    bitFromLeft (byte <<< amount) i =
      (decide (i + amount.toNat % 8 < 8) && bitFromLeft byte (i + amount.toNat % 8)) := by
  have kept : amount.toNat % 8 ≤ 7 - i ↔ i + amount.toNat % 8 < 8 := by omega
  rw [bitFromLeft, UInt8.toNat_shiftLeft, Nat.testBit_mod_two_pow, Nat.testBit_shiftLeft,
    decide_eq_true (by omega : 7 - i < 8), Bool.true_and, decide_eq_decide.mpr kept, bitFromLeft,
    Nat.sub_sub]

theorem bitFromLeft_zero (i : Nat) : bitFromLeft 0 i = false := Nat.zero_testBit _

theorem bitFromLeft_singleBit {i j : Nat} (hi : i < 8) (hj : j < 8) :
    bitFromLeft (singleBit i) j = decide (j = i) := by
  have table : ∀ i < 8, ∀ j < 8, bitFromLeft (singleBit i) j = decide (j = i) := by decide
  exact table i hi j hj

/-- A mask clears, and then bits are set. -/
theorem bitFromLeft_overlay (byte mask bits : UInt8) (i : Nat) :
    bitFromLeft (byte &&& ~~~mask ||| bits) i =
      (bitFromLeft byte i && !bitFromLeft mask i || bitFromLeft bits i) := by
  have low : 7 - i < 8 := by omega
  change (byte &&& ~~~mask ||| bits).toBitVec.getLsbD (7 - i) = _
  simp only [UInt8.toBitVec_or, UInt8.toBitVec_and, UInt8.toBitVec_not, BitVec.getLsbD_or,
    BitVec.getLsbD_and, BitVec.getLsbD_not, decide_eq_true low, Bool.true_and]
  rfl

/-- Setting or clearing one bit leaves the others. -/
theorem bitFromLeft_setBit (byte : UInt8) (on : Bool) {i j : Nat} (hi : i < 8) (hj : j < 8) :
    bitFromLeft (if on then byte ||| singleBit i else byte &&& ~~~singleBit i) j =
      if j = i then on else bitFromLeft byte j := by
  have bit := bitFromLeft_singleBit hi hj
  cases on with
  | true =>
    rw [if_pos rfl, bitFromLeft_or, bit]
    by_cases here : j = i <;> simp [here]
  | false =>
    have cleared := bitFromLeft_overlay byte (singleBit i) 0 j
    rw [UInt8.or_zero, bitFromLeft_zero, bit, Bool.or_false] at cleared
    rw [if_neg Bool.false_ne_true, cleared]
    by_cases here : j = i <;> simp [here]

theorem testBit_high (byte : UInt8) {i : Nat} (h : 8 ≤ i) : byte.toNat.testBit i = false :=
  Nat.testBit_lt_two_pow (Nat.lt_of_lt_of_le byte.toNat_lt (Nat.pow_le_pow_right (by decide) h))

/-- A byte moved to the right is filled up with dark bits in front and loses its last ones. -/
theorem bitFromLeft_shiftRight (byte amount : UInt8) {i : Nat} (hi : i < 8) :
    bitFromLeft (byte >>> amount) i =
      (decide (amount.toNat % 8 ≤ i) && bitFromLeft byte (i - amount.toNat % 8)) := by
  rw [bitFromLeft, UInt8.toNat_shiftRight, Nat.testBit_shiftRight, bitFromLeft]
  by_cases moved : amount.toNat % 8 ≤ i
  · rw [decide_eq_true moved, Bool.true_and]
    congr 1
    omega
  · rw [decide_eq_false moved, Bool.false_and]
    exact testBit_high byte (by omega)

/-- A byte is its eight bits. -/
theorem eq_of_testBit {a b : UInt8} (h : ∀ i < 8, a.toNat.testBit i = b.toNat.testBit i) :
    a = b := by
  apply UInt8.toNat_inj.mp
  apply Nat.eq_of_testBit_eq
  intro i
  by_cases low : i < 8
  · exact h i low
  · rw [testBit_high a (by omega), testBit_high b (by omega)]

theorem eq_of_bitFromLeft {a b : UInt8} (h : ∀ i < 8, bitFromLeft a i = bitFromLeft b i) :
    a = b := by
  apply eq_of_testBit
  intro i low
  have same := h (7 - i) (by omega)
  rwa [bitFromLeft, bitFromLeft, Nat.sub_sub_self (by omega)] at same

/-- The first of the two bytes that an overlay at `shift` covers. -/
theorem bitFromLeft_front (v : UInt8) {shift i : Nat} (hs : shift < 8) (hi : i < 8) :
    bitFromLeft ((v.toNat <<< (8 - shift)) >>> 8).toUInt8 i =
      (decide (shift ≤ i) && bitFromLeft v (i - shift)) := by
  rw [bitFromLeft_toUInt8, bitFromLeft, Nat.testBit_shiftRight, Nat.testBit_shiftLeft]
  by_cases behind : shift ≤ i
  · have place : 8 + (7 - i) - (8 - shift) = 7 - (i - shift) := by omega
    have reached : 8 - shift ≤ 8 + (7 - i) := by omega
    simp [behind, place, reached]
  · have high : 8 ≤ 8 + (7 - i) - (8 - shift) := by omega
    simp [behind, testBit_high v high]

/-- The second of the two bytes. -/
theorem bitFromLeft_back (v : UInt8) {shift i : Nat} (hs : shift < 8) (hi : i < 8) :
    bitFromLeft (v.toNat <<< (8 - shift)).toUInt8 i =
      (decide (i < shift) && bitFromLeft v (8 + i - shift)) := by
  rw [bitFromLeft_toUInt8, bitFromLeft, Nat.testBit_shiftLeft]
  have place : 7 - i - (8 - shift) = 7 - (8 + i - shift) := by omega
  have reached : 8 - shift ≤ 7 - i ↔ i < shift := by omega
  simp [place, reached]

end Bits

section Pixels

variable (b : Bitmap)

theorem width_eq : b.width = 8 * b.stride := by
  have aligned := b.aligned
  change b.size.width.toNat = 8 * (b.size.width.toNat / 8)
  omega

theorem width_of_size {a b : Bitmap} (h : a.size = b.size) : a.width = b.width :=
  congrArg (·.width.toNat) h

theorem height_of_size {a b : Bitmap} (h : a.size = b.size) : a.height = b.height :=
  congrArg (·.height.toNat) h

theorem width_of_panel {b : Bitmap} (h : b.size = Panel.size) : b.width = 160 :=
  congrArg (·.width.toNat) h

theorem height_of_panel {b : Bitmap} (h : b.size = Panel.size) : b.height = 48 :=
  congrArg (·.height.toNat) h

theorem stride_of_size {a b : Bitmap} (h : a.size = b.size) : a.stride = b.stride :=
  congrArg Size.stride h

variable {b} {x y px py : Nat}

/-- Pixels outside are dark. -/
theorem getPixel_of_outside (h : b.width ≤ x ∨ b.height ≤ y) : b.getPixel x y = false := by
  rw [getPixel, byteIndex, if_neg (by omega)]

/-- A pixel inside is a bit of its byte. -/
theorem getPixel_of_inside (hx : x < b.width) (hy : y < b.height) :
    b.getPixel x y = bitFromLeft (b.bytes.getD (y * b.stride + x / 8) 0) (x % 8) := by
  rw [getPixel, byteIndex, if_pos ⟨hx, hy⟩]

/-- The bytes of different pixels of a grid are different, but for eight neighbours. -/
theorem index_inj {stride c d y z : Nat} (hc : c < stride) (hd : d < stride) :
    y * stride + c = z * stride + d ↔ y = z ∧ c = d := by
  constructor
  · intro same
    have rows := congrArg (· / stride) same
    have columns := congrArg (· % stride) same
    simp only [Nat.mul_comm _ stride, Nat.mul_add_div (by omega : stride > 0),
      Nat.div_eq_of_lt hc, Nat.div_eq_of_lt hd, Nat.mul_add_mod, Nat.mod_eq_of_lt hc,
      Nat.mod_eq_of_lt hd] at rows columns
    exact ⟨rows, columns⟩
  · rintro ⟨rfl, rfl⟩
    rfl

theorem index_lt (hx : x < b.width) (hy : y < b.height) :
    y * b.stride + x / 8 < b.bytes.size := by
  have inside : x / 8 < b.stride := by
    have := b.width_eq
    omega
  rw [b.bytes_size]
  change _ < b.stride * b.height
  calc y * b.stride + x / 8 < y * b.stride + b.stride := by omega
    _ = (y + 1) * b.stride := (Nat.succ_mul ..).symm
    _ ≤ b.stride * b.height := by
      rw [Nat.mul_comm b.stride]
      exact Nat.mul_le_mul_right _ hy

/-- A byte of a row is there. -/
theorem byte_lt {row column : Nat} (inside : column < b.stride) (below : row < b.height) :
    row * b.stride + column < b.bytes.size := by
  have pixel : 8 * column < b.width := by
    rw [width_eq]
    omega
  have there := index_lt pixel below
  rwa [Nat.mul_div_cancel_left column (by decide)] at there

/-- Every byte is in a row. -/
theorem grid_of_byte {i : Nat} (there : i < b.bytes.size) :
    i % b.stride < b.stride ∧ i / b.stride < b.height := by
  have count : i < b.stride * b.height := Nat.lt_of_lt_of_eq there b.bytes_size
  have stride : 0 < b.stride := Nat.pos_of_mul_pos_right (Nat.lt_of_le_of_lt (Nat.zero_le i) count)
  exact ⟨Nat.mod_lt i stride, Nat.div_lt_of_lt_mul count⟩

/-- Two changes of one byte are one change. -/
theorem modifyByte_modifyByte (b : Bitmap) (i : Nat) (f g : UInt8 → UInt8) :
    (b.modifyByte i f).modifyByte i g = b.modifyByte i fun byte => g (f byte) := by
  refine Bitmap.ext rfl (Array.ext_getElem? fun j => ?_)
  change ((b.bytes.modify i f).modify i g)[j]? = (b.bytes.modify i fun byte => g (f byte))[j]?
  rw [Array.getElem?_modify, Array.getElem?_modify, Array.getElem?_modify]
  split
  next =>
    rw [Option.map_map]
    rfl
  next => rfl

theorem getPixel_modifyByte {i : Nat} {f : UInt8 → UInt8} (hx : x < b.width) (hy : y < b.height) :
    (b.modifyByte i f).getPixel x y =
      bitFromLeft (if i = y * b.stride + x / 8 then f (b.bytes.getD (y * b.stride + x / 8) 0)
        else b.bytes.getD (y * b.stride + x / 8) 0) (x % 8) := by
  have inside := index_lt hx hy
  rw [getPixel_of_inside (b := b.modifyByte i f) hx hy]
  change bitFromLeft ((b.bytes.modify i f).getD (y * b.stride + x / 8) 0) (x % 8) = _
  rw [Array.getD_eq_getD_getElem?, Array.getElem?_modify, Array.getD_eq_getD_getElem?,
    Array.getElem?_eq_getElem inside]
  split <;> rfl

/-- Bitmaps of one size that show the same are the same. -/
theorem ext_getPixel {a b : Bitmap} (size : a.size = b.size)
    (same : ∀ x y, x < a.width → y < a.height → a.getPixel x y = b.getPixel x y) : a = b := by
  refine Bitmap.ext size (Array.ext (by rw [a.bytes_size, b.bytes_size, size]) ?_)
  intro i ha hb
  have width := a.width_eq
  obtain ⟨column, row⟩ := grid_of_byte ha
  apply eq_of_bitFromLeft
  intro j hj
  have pixel := same (8 * (i % a.stride) + j) (i / a.stride) (by omega) row
  rw [getPixel_of_inside (by omega) row,
    getPixel_of_inside (by rw [← width_of_size size]; omega) (height_of_size size ▸ row),
    ← stride_of_size size, show (8 * (i % a.stride) + j) / 8 = i % a.stride by omega,
    show (8 * (i % a.stride) + j) % 8 = j by omega, Nat.div_add_mod'] at pixel
  simpa [ha, hb] using pixel

/-- A changed byte shows in its eight pixels and nowhere else. -/
theorem getPixel_changedByte {i column : Nat} {f : UInt8 → UInt8}
    (hi : i = y * b.stride + column) (hc : column < b.stride) (hx : px < b.width)
    (hy : py < b.height) :
    (b.modifyByte i f).getPixel px py =
      if py = y ∧ px / 8 = column then
        bitFromLeft (f (b.bytes.getD (py * b.stride + px / 8) 0)) (px % 8)
      else b.getPixel px py := by
  have inside : px / 8 < b.stride := by
    have := b.width_eq
    omega
  rw [getPixel_modifyByte hx hy, getPixel_of_inside hx hy, hi]
  by_cases here : py = y ∧ px / 8 = column
  · rw [if_pos here, if_pos ((index_inj hc inside).mpr ⟨here.1.symm, here.2.symm⟩)]
  · rw [if_neg here, if_neg]
    intro same
    obtain ⟨row, place⟩ := (index_inj hc inside).mp same
    exact here ⟨row.symm, place.symm⟩

/-- A pixel that is set shows what it was set to, and no other pixel is touched. Outside
there is nothing to set. -/
theorem getPixel_setPixel (b : Bitmap) (x y : Nat) (on : Bool) (px py : Nat) :
    (b.setPixel x y on).getPixel px py =
      if px = x ∧ py = y ∧ x < b.width ∧ y < b.height then on else b.getPixel px py := by
  by_cases here : x < b.width ∧ y < b.height
  swap
  · rw [setPixel, byteIndex, if_neg here, if_neg fun more => here more.2.2]
  by_cases inside : px < b.width ∧ py < b.height
  swap
  · have width := width_of_size (b.size_setPixel x y on)
    have height := height_of_size (b.size_setPixel x y on)
    rw [if_neg (by omega), getPixel_of_outside (by omega), getPixel_of_outside (by omega)]
  have column : x / 8 < b.stride := by
    have := b.width_eq
    omega
  rw [setPixel, byteIndex, if_pos here]
  dsimp only
  rw [getPixel_changedByte rfl column inside.1 inside.2,
    bitFromLeft_setBit _ _ (Nat.mod_lt x (by decide)) (Nat.mod_lt px (by decide)),
    ← getPixel_of_inside inside.1 inside.2]
  by_cases byte : py = y ∧ px / 8 = x / 8
  · rw [if_pos byte]
    exact if_congr (by omega) rfl rfl
  · rw [if_neg byte, if_neg (by omega)]

/-- One byte of an overlay acts on the eight pixels of that byte. -/
theorem getPixel_overlayByte {i column : Nat} {mask bits : UInt8}
    (hi : i = y * b.stride + column) (hc : column < b.stride) (hx : px < b.width)
    (hy : py < b.height) :
    (b.modifyByte i fun byte => byte &&& ~~~mask ||| bits).getPixel px py =
      if py = y ∧ px / 8 = column then
        (b.getPixel px py && !bitFromLeft mask (px % 8) || bitFromLeft bits (px % 8))
      else b.getPixel px py := by
  rw [getPixel_changedByte hi hc hx hy, bitFromLeft_overlay, ← getPixel_of_inside hx hy]

/-- An overlay acts on the byte where it starts and, unless it starts at a byte, on the
next one. -/
theorem getPixel_stamp_bytes {mask bits : UInt8} (hx : x < b.width) (wide : px < b.width)
    (high : py < b.height) :
    (b.stamp x y mask bits).getPixel px py =
      if py = y ∧ px / 8 = x / 8 then
        (b.getPixel px py &&
            !bitFromLeft ((mask.toNat <<< (8 - x % 8)) >>> 8).toUInt8 (px % 8) ||
          bitFromLeft ((bits.toNat <<< (8 - x % 8)) >>> 8).toUInt8 (px % 8))
      else if 0 < x % 8 ∧ py = y ∧ px / 8 = x / 8 + 1 then
        (b.getPixel px py && !bitFromLeft (mask.toNat <<< (8 - x % 8)).toUInt8 (px % 8) ||
          bitFromLeft (bits.toNat <<< (8 - x % 8)).toUInt8 (px % 8))
      else b.getPixel px py := by
  have width := b.width_eq
  have start : x / 8 < b.stride := by omega
  rw [stamp]
  split
  next spills =>
    -- The first change keeps the stride, so the next byte is the next one for both.
    rw [getPixel_overlayByte (b := b.modifyByte ..) (Nat.add_assoc (y * b.stride) (x / 8) 1)
      spills.2 wide high, getPixel_overlayByte rfl start wide high]
    by_cases here : py = y ∧ px / 8 = x / 8
    · rw [if_pos here, if_neg (by omega), if_pos here]
    · simp only [if_neg here, spills.1, true_and]
  next whole =>
    rw [getPixel_overlayByte rfl start wide high, if_neg (c := 0 < x % 8 ∧ _) (by omega)]

/-- What an overlay shows: it acts on eight columns of one row, as far as they are inside. -/
theorem getPixel_stamp {mask bits : UInt8} (hx : x < b.width) :
    (b.stamp x y mask bits).getPixel px py =
      if py = y ∧ x ≤ px ∧ px < x + 8 ∧ px < b.width ∧ py < b.height then
        (b.getPixel px py && !bitFromLeft mask (px - x) || bitFromLeft bits (px - x))
      else b.getPixel px py := by
  by_cases inside : px < b.width ∧ py < b.height
  swap
  · have stamped := width_of_size (b.size_stamp x y mask bits)
    have tall := height_of_size (b.size_stamp x y mask bits)
    rw [if_neg (by omega), getPixel_of_outside (by omega), getPixel_of_outside (by omega)]
  have shift : x % 8 < 8 := Nat.mod_lt x (by decide)
  have place : px % 8 < 8 := Nat.mod_lt px (by decide)
  rw [getPixel_stamp_bytes hx inside.1 inside.2, bitFromLeft_front mask shift place,
    bitFromLeft_front bits shift place, bitFromLeft_back mask shift place,
    bitFromLeft_back bits shift place]
  by_cases front : py = y ∧ px / 8 = x / 8
  · rw [if_pos front]
    by_cases covered : x ≤ px
    · rw [if_pos (by omega), decide_eq_true (by omega : x % 8 ≤ px % 8),
        show px % 8 - x % 8 = px - x by omega, Bool.true_and, Bool.true_and]
    · rw [if_neg (by omega), decide_eq_false (by omega : ¬ x % 8 ≤ px % 8)]
      simp
  rw [if_neg front]
  by_cases back : 0 < x % 8 ∧ py = y ∧ px / 8 = x / 8 + 1
  · rw [if_pos back]
    by_cases covered : px < x + 8
    · rw [if_pos (by omega), decide_eq_true (by omega : px % 8 < x % 8),
        show 8 + px % 8 - x % 8 = px - x by omega, Bool.true_and, Bool.true_and]
    · rw [if_neg (by omega), decide_eq_false (by omega : ¬ px % 8 < x % 8)]
      simp
  · rw [if_neg back, if_neg (by omega)]

/-- Bits under the mask replace what the mask covers. -/
theorem getPixel_stamp_of_covered {mask bits : UInt8} (hx : x < b.width)
    (covered : ∀ i < 8, bitFromLeft bits i = true → bitFromLeft mask i = true) :
    (b.stamp x y mask bits).getPixel px py =
      if py = y ∧ x ≤ px ∧ px < x + 8 ∧ px < b.width ∧ py < b.height ∧
          bitFromLeft mask (px - x) = true then
        bitFromLeft bits (px - x)
      else b.getPixel px py := by
  rw [getPixel_stamp hx]
  by_cases window : py = y ∧ x ≤ px ∧ px < x + 8 ∧ px < b.width ∧ py < b.height
  · rw [if_pos window]
    cases masked : bitFromLeft mask (px - x) with
    | true =>
      obtain ⟨row, left, right, wide, high⟩ := window
      rw [if_pos ⟨row, left, right, wide, high, rfl⟩, Bool.not_true, Bool.and_false, Bool.false_or]
    | false =>
      have unset : bitFromLeft bits (px - x) = false := by
        by_contra set
        rw [Bool.not_eq_false] at set
        rw [covered (px - x) (by omega) set] at masked
        cases masked
      simp [unset]
  · rw [if_neg window, if_neg fun more => window ⟨more.1, more.2.1, more.2.2.1, more.2.2.2.1,
      more.2.2.2.2.1⟩]

/-- A drawing in steps, at one pixel: if the steps that cover the pixel agree on what it shows
then, it shows this as soon as one of them covers it. -/
theorem getPixel_steps {step : Bitmap → Nat → Bitmap} {covers : Nat → Prop} [DecidablePred covers]
    {shown : Bool} {count : Nat}
    (steps : ∀ (c : Bitmap) (i : Nat), c.size = b.size → i < count → (step c i).size = b.size ∧
      (step c i).getPixel px py = if covers i then shown else c.getPixel px py) :
    ((List.range count).foldl step b).size = b.size ∧
      ((List.range count).foldl step b).getPixel px py =
        if ∃ i < count, covers i then shown else b.getPixel px py := by
  induction count with
  | zero =>
    refine ⟨rfl, ?_⟩
    rw [if_neg (by simp)]
    rfl
  | succ count ih =>
    obtain ⟨size, pixel⟩ := ih fun c i same small => steps c i same (Nat.lt_succ_of_lt small)
    obtain ⟨sizeLast, pixelLast⟩ := steps _ count size (Nat.lt_succ_self count)
    rw [List.range_succ, List.foldl_append]
    refine ⟨sizeLast, pixelLast.trans ?_⟩
    rw [pixel]
    by_cases last : covers count
    · rw [if_pos last, if_pos ⟨count, Nat.lt_succ_self count, last⟩]
    · rw [if_neg last]
      refine if_congr ?_ rfl rfl
      rw [Nat.exists_lt_succ_right]
      exact (or_iff_left last).symm

end Pixels

end LcdCompositor.Bitmap
