import LcdCompositor.Options.CommandLine
import LcdCompositor.Proofs.Result
import LcdCompositor.Proofs.Text.Numeral

/-!
# Which texts are masks

A mask is a number of 64 bits. It stands in base sixteen behind a marker, `0x` or `0X`, and
without one in base ten; a plus sign comes behind the marker, and zeros behind the sign. A
number that has no room in 64 bits is refused however it is written, so what is read is the
number that stands there.
-/

namespace LcdCompositor

open Text

/-- The text starts with the marker of numbers in base sixteen. -/
def Marked (text : List Char) : Prop :=
  ∃ marker digits, (marker = 'x' ∨ marker = 'X') ∧ text = '0' :: marker :: digits

/-- The text stands for a number as masks are written. -/
def MaskNumeral (text : List Char) (n : Nat) : Prop :=
  (∃ marker digits, (marker = 'x' ∨ marker = 'X') ∧ text = '0' :: marker :: digits ∧
    Unsigned 16 digits n) ∨
  ¬ Marked text ∧ Unsigned 10 text n

variable {s : String} {text digits : List Char} {marker : Char} {n : Nat} {mask : UInt64}

theorem maskNumeral_marked (behind : marker = 'x' ∨ marker = 'X') :
    MaskNumeral ('0' :: marker :: digits) n ↔ Unsigned 16 digits n := by
  constructor
  · rintro (⟨marker', digits', -, same, number⟩ | ⟨plain, -⟩)
    · cases same
      exact number
    · exact absurd ⟨marker, digits, behind, rfl⟩ plain
  · exact fun number => .inl ⟨marker, digits, behind, rfl, number⟩

theorem maskNumeral_plain (plain : ¬ Marked text) : MaskNumeral text n ↔ Unsigned 10 text n := by
  constructor
  · rintro (⟨marker, digits, behind, same, -⟩ | ⟨-, number⟩)
    · exact absurd ⟨marker, digits, behind, same⟩ plain
    · exact number
  · exact fun number => .inr ⟨plain, number⟩

/-- Digits in base ten have no marker among them. -/
theorem Text.Numeral.not_marked (number : Numeral 10 digits n) : ¬ Marked digits := by
  rintro ⟨marker, rest, behind, rfl⟩
  obtain ⟨values, digitwise, -⟩ := number
  cases digitwise with
  | cons zero tail =>
    cases tail with
    | cons letter =>
      rcases behind with rfl | rfl <;> exact absurd letter (by simp [digitValue])

theorem readMask_marked (behind : marker = 'x' ∨ marker = 'X')
    (written : s.toList = '0' :: marker :: digits) :
    readMask s = (readUnsigned 16 (UInt64.size - 1) (String.ofList digits)).map Nat.toUInt64 := by
  rw [readMask, written]
  rcases behind with rfl | rfl <;> rfl

theorem readMask_plain (plain : ¬ Marked s.toList) :
    readMask s = (readUnsigned 10 (UInt64.size - 1) s).map Nat.toUInt64 := by
  rw [readMask]
  split
  next digits written => exact absurd ⟨'x', digits, .inl rfl, written⟩ plain
  next digits written => exact absurd ⟨'X', digits, .inr rfl, written⟩ plain
  next => rfl

/-- A text with a marker and one without are read alike, but for the base and where the digits
start. -/
theorem exists_reading (s : String) : ∃ radix rest,
    readMask s = (readUnsigned radix (UInt64.size - 1) rest).map Nat.toUInt64 ∧
      ∀ n, MaskNumeral s.toList n ↔ Unsigned radix rest.toList n := by
  by_cases marked : Marked s.toList
  · obtain ⟨marker, digits, behind, written⟩ := marked
    refine ⟨16, String.ofList digits, readMask_marked behind written, fun n => ?_⟩
    rw [written, maskNumeral_marked behind, String.toList_ofList]
  · exact ⟨10, s, readMask_plain marked, fun n => maskNumeral_plain marked⟩

theorem readMask_eq_ok_iff : readMask s = .ok mask ↔ MaskNumeral s.toList mask.toNat := by
  obtain ⟨radix, rest, read, numeral⟩ := exists_reading s
  rw [read, numeral, map_eq_ok_iff]
  constructor
  · rintro ⟨n, found, rfl⟩
    obtain ⟨number, below⟩ := readUnsigned_eq_ok_iff.mp found
    have small : n < UInt64.size := Nat.lt_of_le_pred (by decide) below
    rwa [show n.toUInt64.toNat = n from Nat.mod_eq_of_lt small]
  · intro number
    have below : mask.toNat ≤ UInt64.size - 1 := Nat.le_pred_of_lt mask.toNat_lt
    exact ⟨mask.toNat, readUnsigned_eq_ok_iff.mpr ⟨number, below⟩, UInt64.ofNat_toNat⟩

/-- A number without room in 64 bits is named as too large. -/
theorem readMask_of_gt (number : MaskNumeral s.toList n) (large : UInt64.size ≤ n) :
    readMask s = .error .tooLarge := by
  obtain ⟨radix, rest, read, numeral⟩ := exists_reading s
  rw [read, readUnsigned_of_gt ((numeral n).mp number) (Nat.lt_of_lt_of_le (by decide) large)]
  rfl

theorem readMask_decimal (nonempty : s.toList ≠ []) (number : Numeral 10 s.toList mask.toNat) :
    readMask s = .ok mask := by
  rw [readMask_eq_ok_iff, maskNumeral_plain number.not_marked]
  exact ⟨s.toList, nonempty, .inl rfl, number⟩

theorem readMask_hexadecimal (behind : marker = 'x' ∨ marker = 'X')
    (written : s.toList = '0' :: marker :: digits) (nonempty : digits ≠ [])
    (number : Numeral 16 digits mask.toNat) : readMask s = .ok mask := by
  rw [readMask_eq_ok_iff, written, maskNumeral_marked behind]
  exact ⟨digits, nonempty, .inl rfl, number⟩

theorem toList_hex (n : Nat) : (Text.hex n).toList = '0' :: 'x' :: Nat.toDigits 16 n := by
  simp only [Text.hex, hexDigits, String.toList_append, String.toList_ofList]
  rfl

theorem toList_hexMask (mask : UInt64) : ∃ zeros, (Text.hexMask mask).toList =
    '0' :: 'x' :: (List.replicate zeros '0' ++ Nat.toDigits 16 mask.toNat) := by
  refine ⟨16 - (hexDigits mask.toNat).length, ?_⟩
  simp only [Text.hexMask, hexDigits, String.toList_append, String.toList_ofList]
  rfl

/-- A text is read as a mask if and only if it is a number of 64 bits: behind a marker one or
more digits in base sixteen, with letters in either case, and else in base ten, with or without
a plus sign in front of the digits. What is read is that number, and a number of more bits is
refused as too large. Zeros in front change nothing. Every mask is read back from its decimal
digits and from its hexadecimal ones, at their own width and at the full one. -/
theorem readMask_numeral :
    (∀ s mask, readMask s = .ok mask ↔ MaskNumeral s.toList mask.toNat) ∧
    (∀ s n, MaskNumeral s.toList n → 2 ^ 64 ≤ n → readMask s = .error .tooLarge) ∧
    (∀ radix c d, radix ≤ 16 → (digitValue radix c = some d ↔
      d < radix ∧ (c = d.digitChar ∨ c = d.digitChar.toUpper))) ∧
    (∀ (zeros : Nat) (digits : List Char) (mask : UInt64), digits ≠ [] →
      (Numeral 10 digits mask.toNat →
        readMask (String.ofList (List.replicate zeros '0' ++ digits)) = .ok mask) ∧
      (Numeral 16 digits mask.toNat → ∀ marker, marker = 'x' ∨ marker = 'X' →
        readMask (String.ofList ('0' :: marker :: (List.replicate zeros '0' ++ digits))) =
          .ok mask)) ∧
    ∀ mask : UInt64, readMask (toString mask.toNat) = .ok mask ∧
      readMask (Text.hex mask.toNat) = .ok mask ∧ readMask (Text.hexMask mask) = .ok mask := by
  refine ⟨fun s mask => readMask_eq_ok_iff, fun s n => readMask_of_gt,
    fun radix c d small => digitValue_eq_some_iff small, ?zeros, ?written⟩
  case zeros =>
    intro zeros digits mask nonempty
    have padded : List.replicate zeros '0' ++ digits ≠ [] :=
      List.append_ne_nil_of_right_ne_nil _ nonempty
    refine ⟨fun number => readMask_decimal ?_ ?_, fun number marker behind =>
      readMask_hexadecimal behind String.toList_ofList padded (number.zeros (by decide) zeros)⟩
    · rwa [String.toList_ofList]
    · rw [String.toList_ofList]
      exact number.zeros (by decide) zeros
  case written =>
    intro mask
    have decimal : Numeral 10 (Nat.toDigits 10 mask.toNat) mask.toNat :=
      numeral_toDigits (by decide) (by decide) mask.toNat
    have hexadecimal : Numeral 16 (Nat.toDigits 16 mask.toNat) mask.toNat :=
      numeral_toDigits (by decide) (by decide) mask.toNat
    have digits : (toString mask.toNat).toList = Nat.toDigits 10 mask.toNat := by
      rw [Nat.toString_eq_ofList_toDigits, String.toList_ofList]
    obtain ⟨zeros, full⟩ := toList_hexMask mask
    refine ⟨readMask_decimal ?_ ?_, readMask_hexadecimal (.inl rfl) (toList_hex _)
      Nat.toDigits_ne_nil hexadecimal, readMask_hexadecimal (.inl rfl) full ?_ ?_⟩
    · rw [digits]
      exact Nat.toDigits_ne_nil
    · rwa [digits]
    · exact List.append_ne_nil_of_right_ne_nil _ Nat.toDigits_ne_nil
    · exact hexadecimal.zeros (by decide) zeros

-- The largest mask and the number behind it. A sign in front of the marker is no digit.
example : readMask "0X+000FfFfFfFfFfFfFfFf" = .ok (2 ^ 64 - 1) ∧
    readMask "18446744073709551616" = .error .tooLarge ∧
    readMask "+0x1" = .error .invalidDigit := by
  refine ⟨?_, ?_, ?_⟩ <;> cbv

end LcdCompositor
