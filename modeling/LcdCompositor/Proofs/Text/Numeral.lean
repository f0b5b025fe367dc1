import LcdCompositor.Text.Integer
import Mathlib.Data.Nat.Digits.Lemmas

/-!
# What a number is read from

A numeral is a row of digits whose value in the radix is meant. Reading on from an
accumulated value gives the value of accumulator and digits together, and it is
refused when that value exceeds the limit: the accumulator never falls, so a limit
exceeded on the way is exceeded at the end. What a number is written in is a numeral
of it, in every radix up to sixteen.
-/

namespace LcdCompositor.Text

/-- Digits, the first being the most significant, that stand for a number. -/
def Numeral (radix : Nat) (digits : List Char) (n : Nat) : Prop :=
  ∃ values, List.Forall₂ (fun c d => digitValue radix c = some d) digits values ∧
    Nat.ofDigits radix values.reverse = n

/-- One or more digits, with or without a plus sign in front. -/
def Unsigned (radix : Nat) (text : List Char) (n : Nat) : Prop :=
  ∃ digits, digits ≠ [] ∧ (text = digits ∨ text = '+' :: digits) ∧ Numeral radix digits n

variable {radix limit acc n : Nat} {beyond : IntegerFault} {digits text : List Char}

theorem digitValue_lt {c : Char} {d : Nat} (read : digitValue radix c = some d) : d < radix := by
  rw [digitValue, Option.ite_none_right_eq_some] at read
  obtain ⟨below, same⟩ := read
  rw [← Option.some.inj same]
  exact below

theorem digitValue_plus : digitValue radix '+' = none := by
  simp [digitValue]

theorem le_foldl_digits (pos : 0 < radix) (values : List Nat) :
    acc ≤ values.foldl (fun acc d => d + radix * acc) acc := by
  induction values generalizing acc with
  | nil => exact Nat.le_refl acc
  | cons d values ih =>
    have grown : acc ≤ d + radix * acc :=
      Nat.le_trans (Nat.le_mul_of_pos_left acc pos) (Nat.le_add_left _ d)
    exact Nat.le_trans grown ih

/-- One digit is read if it is one and the value stays within the limit. -/
theorem readDigits_cons_eq_ok_iff {c : Char} :
    readDigits radix limit beyond acc (c :: digits) = .ok n ↔
      ∃ d, digitValue radix c = some d ∧ d + radix * acc ≤ limit ∧
        readDigits radix limit beyond (d + radix * acc) digits = .ok n := by
  rw [readDigits, Nat.mul_comm acc radix]
  cases value : digitValue radix c with
  | none => simp
  | some d =>
    dsimp only
    rw [Nat.add_comm]
    split
    · next small => simp [small]
    · next large => simp [large]

/-- The induction is on the digits. What is still to be read only adds to the value, so a
value within the limit at the end has been within it all along. -/
theorem readDigits_eq_ok_iff (within : acc ≤ limit) :
    readDigits radix limit beyond acc digits = .ok n ↔
      ∃ values, List.Forall₂ (fun c d => digitValue radix c = some d) digits values ∧
        values.foldl (fun acc d => d + radix * acc) acc = n ∧ n ≤ limit := by
  induction digits generalizing acc with
  | nil =>
    rw [readDigits, Except.ok.injEq]
    constructor
    · rintro rfl
      exact ⟨[], .nil, rfl, within⟩
    · rintro ⟨values, digitwise, sum, -⟩
      cases digitwise
      exact sum
  | cons c rest ih =>
    rw [readDigits_cons_eq_ok_iff]
    constructor
    · rintro ⟨d, value, small, read⟩
      obtain ⟨values, digitwise, sum⟩ := (ih small).mp read
      exact ⟨d :: values, .cons value digitwise, sum⟩
    · rintro ⟨_, digitwise, sum, bounded⟩
      cases digitwise with
      | @cons _ d _ values value tail =>
        have pos : 0 < radix := Nat.zero_lt_of_lt (digitValue_lt value)
        have grown : d + radix * acc ≤ n := sum ▸ le_foldl_digits pos values
        have small : d + radix * acc ≤ limit := Nat.le_trans grown bounded
        exact ⟨d, value, small, (ih small).mpr ⟨values, tail, sum, bounded⟩⟩

theorem readMagnitude_eq_ok_iff :
    readMagnitude radix limit beyond digits = .ok n ↔
      digits ≠ [] ∧ Numeral radix digits n ∧ n ≤ limit := by
  cases digits with
  | nil => simp [readMagnitude]
  | cons c rest =>
    have nonempty : c :: rest ≠ [] := List.cons_ne_nil c rest
    rw [readMagnitude, readDigits_eq_ok_iff (Nat.zero_le limit)]
    · simp only [Numeral, Nat.ofDigits_eq_foldr, List.foldr_reverse, Nat.cast_id, ne_eq, nonempty,
        not_false_eq_true, true_and, exists_and_right, ← and_assoc]
    · exact nonempty

theorem not_numeral_plus : ¬ Numeral radix ('+' :: digits) n := by
  rintro ⟨values, digitwise, -⟩
  cases digitwise with
  | cons head => cases digitValue_plus.symm.trans head

theorem readUnsigned_eq_ok_iff {s : String} :
    readUnsigned radix limit s = .ok n ↔ Unsigned radix s.toList n ∧ n ≤ limit := by
  rw [readUnsigned, Unsigned]
  split
  · next empty => simp [empty]
  · next digits plus =>
    rw [readMagnitude_eq_ok_iff, plus, ← and_assoc]
    apply and_congr_left'
    constructor
    · rintro ⟨nonempty, number⟩
      exact ⟨digits, nonempty, .inr rfl, number⟩
    · rintro ⟨digits', nonempty, rfl | same, number⟩
      · exact absurd number not_numeral_plus
      · obtain rfl : digits = digits' := List.tail_eq_of_cons_eq same
        exact ⟨nonempty, number⟩
  · next _ unsigned =>
    rw [readMagnitude_eq_ok_iff, ← and_assoc]
    apply and_congr_left'
    constructor
    · rintro ⟨nonempty, number⟩
      exact ⟨s.toList, nonempty, .inl rfl, number⟩
    · rintro ⟨digits', nonempty, rfl | same, number⟩
      · exact ⟨nonempty, number⟩
      · exact absurd same (unsigned digits')

/-- Digits that stand for too large a number are all digits, so it is the size that is named. -/
theorem readDigits_of_gt {values : List Nat}
    (digitwise : List.Forall₂ (fun c d => digitValue radix c = some d) digits values)
    (large : limit < values.foldl (fun acc d => d + radix * acc) acc) (within : acc ≤ limit) :
    readDigits radix limit beyond acc digits = .error beyond := by
  induction digitwise generalizing acc with
  | nil => exact absurd large (Nat.not_lt_of_le within)
  | cons value tail ih =>
    rw [readDigits, value]
    dsimp only
    split
    next small => exact ih (by rwa [Nat.mul_comm, Nat.add_comm]) small
    next => rfl

theorem readUnsigned_of_gt {s : String} (number : Unsigned radix s.toList n) (large : limit < n) :
    readUnsigned radix limit s = .error .tooLarge := by
  obtain ⟨digits, nonempty, written, values, digitwise, rfl⟩ := number
  obtain ⟨c, rest, rfl⟩ := List.exists_cons_of_ne_nil nonempty
  have read : readMagnitude radix limit .tooLarge (c :: rest) = .error .tooLarge := by
    refine readDigits_of_gt digitwise ?_ (Nat.zero_le limit)
    rwa [Nat.ofDigits_eq_foldr, List.foldr_reverse] at large
  rw [readUnsigned]
  rcases written with plain | plus
  · have unsigned : c ≠ '+' := by
      rintro rfl
      exact absurd ⟨values, digitwise, rfl⟩ not_numeral_plus
    rw [plain]
    split
    next empty => cases empty
    next sign => exact absurd (List.cons.inj sign).1 unsigned
    next => exact read
  · rw [plus]
    exact read

/-- The digits are the usual ones, letters in either case. -/
theorem digitValue_eq_some_iff (small : radix ≤ 16) {c : Char} {d : Nat} :
    digitValue radix c = some d ↔ d < radix ∧ (c = d.digitChar ∨ c = d.digitChar.toUpper) := by
  have lower : ∀ d < 16, d.digitChar.toNat = if d < 10 then d + 0x30 else d + 0x57 := by decide
  have upper : ∀ d < 16, d.digitChar.toUpper.toNat = if d < 10 then d + 0x30 else d + 0x37 := by
    decide
  rw [digitValue, Option.ite_none_right_eq_some, Option.some.injEq, ← Char.toNat_inj,
    ← Char.toNat_inj]
  by_cases below : d < radix
  · rw [lower d (by omega), upper d (by omega)]
    simp only [Bool.and_eq_true, decide_eq_true_eq]
    split_ifs <;> omega
  · refine iff_of_false (fun read => below ?_) (fun read => below read.1)
    exact read.2 ▸ read.1

/-- Zeros in front do not matter. -/
theorem Numeral.zeros (number : Numeral radix digits n) (base : 0 < radix) (count : Nat) :
    Numeral radix (List.replicate count '0' ++ digits) n := by
  have zero : digitValue radix '0' = some 0 := by
    rw [digitValue]
    exact if_pos base
  induction count with
  | zero => exact number
  | succ count ih =>
    obtain ⟨values, digitwise, sum⟩ := ih
    refine ⟨0 :: values, .cons zero digitwise, ?_⟩
    rw [List.reverse_cons, Nat.ofDigits_append, sum, Nat.ofDigits_singleton, Nat.mul_zero,
      Nat.add_zero]

/-! ## Writing -/

theorem digitValue_digitChar {d : Nat} (below : d < radix) (small : radix ≤ 16) :
    digitValue radix d.digitChar = some d := by
  have within : d < 16 := Nat.lt_of_lt_of_le below small
  interval_cases d <;> exact if_pos below

/-- One more digit at the end. -/
theorem Numeral.snoc {c : Char} {d : Nat} (number : Numeral radix digits n)
    (value : digitValue radix c = some d) : Numeral radix (digits ++ [c]) (d + radix * n) := by
  obtain ⟨values, digitwise, rfl⟩ := number
  refine ⟨values ++ [d], List.rel_append digitwise (.cons value .nil), ?_⟩
  simp [Nat.ofDigits_cons]

/-- The digits in which a number is written stand for it. -/
theorem numeral_toDigits (base : 1 < radix) (small : radix ≤ 16) (n : Nat) :
    Numeral radix (Nat.toDigits radix n) n := by
  induction n using Nat.strongRecOn with
  | ind n ih =>
    by_cases below : n < radix
    · have empty : Numeral radix [] 0 := ⟨[], .nil, rfl⟩
      rw [Nat.toDigits_of_lt_base below]
      exact empty.snoc (digitValue_digitChar below small)
    · have shorter : n / radix < n := Nat.div_lt_self (by omega) base
      have last : n % radix < radix := Nat.mod_lt n (by omega)
      have parts := (ih (n / radix) shorter).snoc (digitValue_digitChar last small)
      rw [Nat.toDigits_of_base_le base (Nat.le_of_not_lt below)]
      rwa [Nat.mod_add_div] at parts

end LcdCompositor.Text
