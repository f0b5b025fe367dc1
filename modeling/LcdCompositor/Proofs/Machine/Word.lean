import LcdCompositor.Machine
import LcdCompositor.Proofs.Bitmap.Pixel

/-!
# Words, loops and bytes of a machine

A step of the machine comes to what the same step without checks comes to, as long as its
numbers stay within their limits and its bytes are there. A loop runs to its end if its step
does wherever something holds that the step keeps; for a bitmap that is its size. The bytes of
a row of a bitmap are there, so an overlay that starts in one of them runs.
-/

namespace LcdCompositor.Machine

open Bitmap

@[simp] theorem ok_bind {α β : Type} (a : α) (next : α → Machine β) :
    ((.ok a : Machine α) >>= next) = next a := rfl

@[simp] theorem pure_eq_ok {α : Type} (a : α) : (pure a : Machine α) = .ok a := rfl

section Words

variable {a b i : Nat} {byte : UInt8}

theorem add_of_le (h : a + b ≤ wordLimit) : add a b = .ok (a + b) := if_pos h

theorem add_of_gt (h : wordLimit < a + b) : add a b = .error (.overflow (a + b)) :=
  if_neg (Nat.not_le_of_gt h)

theorem sub_of_le (h : b ≤ a) : sub a b = .ok (a - b) := if_pos h

theorem shiftLeft_of_lt (h : i < 8) : shiftLeft byte i = .ok (byte <<< i.toUInt8) := if_pos h

theorem shiftRight_of_lt (h : i < 8) : shiftRight byte i = .ok (byte >>> i.toUInt8) := if_pos h

theorem alter_of_lt {target : Bitmap} {f : UInt8 → UInt8} (h : i < target.bytes.size) :
    alter target i f = .ok (target.modifyByte i f) := if_pos h

/-- A bit alone, moved to its place. -/
theorem singleBit_eq {i : Nat} (h : i < 8) : (0x80 : UInt8) >>> i.toUInt8 = singleBit i := by
  revert i
  decide

/-- The part of a moved byte that stays in front. -/
theorem shiftRight_eq (byte : UInt8) {shift : Nat} (h : shift < 8) :
    byte >>> shift.toUInt8 = ((byte.toNat <<< (8 - shift)) >>> 8).toUInt8 := by
  apply eq_of_bitFromLeft
  intro i hi
  have amount : shift.toUInt8.toNat % 8 = shift := by
    change shift % 2 ^ 8 % 8 = shift
    omega
  rw [bitFromLeft_shiftRight _ _ hi, bitFromLeft_front _ h hi, amount]

/-- The part that comes into the next byte. -/
theorem shiftLeft_eq (byte : UInt8) {shift : Nat} (h : shift < 8) (moved : 0 < shift) :
    byte <<< (8 - shift).toUInt8 = (byte.toNat <<< (8 - shift)).toUInt8 := by
  apply eq_of_bitFromLeft
  intro i hi
  have amount : (8 - shift).toUInt8.toNat % 8 = 8 - shift := by
    change (8 - shift) % 2 ^ 8 % 8 = 8 - shift
    omega
  have behind : i + (8 - shift) = 8 + i - shift := by omega
  have inside : 8 + i - shift < 8 ↔ i < shift := by omega
  rw [bitFromLeft_shiftLeft _ _ hi, bitFromLeft_back _ h hi, amount, behind,
    decide_eq_decide.mpr inside]

end Words

section Loops

variable {α β : Type}

/-- A loop that keeps a property runs to its end if its step does wherever the property holds.
Then it is the loop without checks, and the property holds behind it. -/
theorem foldlM_runs {step : β → α → Machine β} {plain : β → α → β} (keeps : β → Prop)
    {items : List α} {start : β} (first : keeps start)
    (fine : ∀ b, keeps b → ∀ a ∈ items, step b a = .ok (plain b a) ∧ keeps (plain b a)) :
    items.foldlM step start = .ok (items.foldl plain start) ∧
      keeps (items.foldl plain start) := by
  induction items generalizing start with
  | nil => exact ⟨rfl, first⟩
  | cons a rest ih =>
    obtain ⟨runs, kept⟩ := fine start first a (List.mem_cons_self ..)
    rw [List.foldlM_cons, runs, ok_bind, List.foldl_cons]
    exact ih kept fun b holds a' later => fine b holds a' (List.mem_cons_of_mem a later)

/-- A loop with nothing to keep. -/
theorem foldlM_eq {step : β → α → Machine β} {plain : β → α → β} {items : List α} {start : β}
    (fine : ∀ b, ∀ a ∈ items, step b a = .ok (plain b a)) :
    items.foldlM step start = .ok (items.foldl plain start) :=
  (foldlM_runs (fun _ => True) trivial fun b _ a member => ⟨fine b a member, trivial⟩).1

/-- Every step works on a bitmap of the size of the first one. -/
theorem foldlM_bitmap {step : Bitmap → α → Machine Bitmap} {plain : Bitmap → α → Bitmap}
    {items : List α} {target : Bitmap} (size : ∀ b a, (plain b a).size = b.size)
    (fine : ∀ b, b.size = target.size → ∀ a ∈ items, step b a = .ok (plain b a)) :
    items.foldlM step target = .ok (items.foldl plain target) :=
  (foldlM_runs (·.size = target.size) rfl fun b same a member =>
    ⟨fine b same a member, (size b a).trans same⟩).1

end Loops

section Pixels

variable {target : Bitmap} {x y : Nat}

theorem setPixel_eq (target : Bitmap) (x y : Nat) (on : Bool) :
    setPixel target x y on = .ok (target.setPixel x y on) := by
  have bit : x % 8 < 8 := Nat.mod_lt x (by decide)
  rw [setPixel, Bitmap.setPixel]
  by_cases inside : x < target.width ∧ y < target.height
  · rw [byteIndex, if_pos inside]
    dsimp only
    rw [shiftRight_of_lt bit, ok_bind, singleBit_eq bit,
      alter_of_lt (index_lt inside.1 inside.2)]
  · rw [byteIndex, if_neg inside]

theorem overlay_of_lt {i : Nat} {mask bits : UInt8} (h : i < target.bytes.size) :
    overlay target i mask bits =
      .ok (target.modifyByte i fun byte => (byte &&& ~~~mask) ||| bits) := by
  have still : i < (target.modifyByte i fun byte => byte &&& ~~~mask).bytes.size :=
    Nat.lt_of_lt_of_eq h Array.size_modify.symm
  rw [overlay, alter_of_lt h, ok_bind, alter_of_lt still, modifyByte_modifyByte]

/-- Eight pixels are overlaid in the one or two bytes that hold those of them that are inside. -/
theorem stamp_eq {mask bits : UInt8} (inside : x / 8 < target.stride)
    (below : y < target.height) :
    stamp target y (x / 8) (x % 8) mask bits = .ok (target.stamp x y mask bits) := by
  have shift : x % 8 < 8 := Nat.mod_lt x (by decide)
  rw [stamp, Bitmap.stamp, shiftRight_of_lt shift, shiftRight_of_lt shift, ok_bind, ok_bind,
    overlay_of_lt (byte_lt inside below), ok_bind, shiftRight_eq mask shift,
    shiftRight_eq bits shift]
  -- What matters of the bitmap behind the first byte is its size.
  generalize front : target.modifyByte (y * target.stride + x / 8) _ = first
  have size : first.size = target.size := by
    rw [← front]
    rfl
  by_cases spills : 0 < x % 8 ∧ x / 8 + 1 < target.stride
  · have next : y * target.stride + x / 8 + 1 < first.bytes.size := by
      rw [← stride_of_size size] at spills ⊢
      rw [← height_of_size size] at below
      exact byte_lt spills.2 below
    rw [if_pos spills, if_pos spills, sub_of_le (by omega), ok_bind,
      shiftLeft_of_lt (by omega), shiftLeft_of_lt (by omega), ok_bind, ok_bind,
      overlay_of_lt next, shiftLeft_eq mask shift spills.1, shiftLeft_eq bits shift spills.1]
  · rw [if_neg spills, if_neg spills, pure_eq_ok]

end Pixels

end LcdCompositor.Machine
