import LcdCompositor.Proofs.Netpbm.Grammar

/-!
# Files that are written are read back

What the writer makes of a bitmap is one of the files that the reader accepts. The
sides are printed in decimal and without a sign, so a token is at most five digits
long, and the newline behind the height is the separator, so the rows may start with
any byte. The size that was written is the only one under which the file is accepted.
-/

namespace LcdCompositor.Netpbm

variable {n : Nat}

/-- The bytes of a number in decimal. -/
def digitBytes (n : Nat) : List UInt8 := (Nat.toDigits 10 n).map fun c => c.toNat.toUInt8

theorem range_of_digit {c : Char} (digit : c ∈ Nat.toDigits 10 n) :
    0x30 ≤ c.toNat ∧ c.toNat ≤ 0x39 := by
  have isDigit := Nat.isDigit_of_mem_toDigits (by decide) (by decide) digit
  simpa [Char.isDigit, UInt32.le_iff_toNat_le] using isDigit

theorem toNat_digitByte {c : Char} (digit : c ∈ Nat.toDigits 10 n) :
    c.toNat.toUInt8.toNat = c.toNat := by
  have range := range_of_digit digit
  exact Nat.mod_eq_of_lt (by omega)

/-- The bytes of a number stand for its digits. -/
theorem toList_digitBytes (n : Nat) : (asciiText (digitBytes n)).toList = Nat.toDigits 10 n := by
  rw [toList_asciiText, digitBytes, List.map_map]
  refine (List.map_congr_left fun c digit => ?_).trans (List.map_id _)
  rw [Function.comp_apply, toNat_digitByte digit, Char.ofNat_toNat, id]

theorem decimal_digitBytes (n : Nat) : Decimal (digitBytes n) n := by
  apply unsigned_asciiText_iff.mp
  rw [toList_digitBytes]
  exact ⟨_, Nat.toDigits_ne_nil, .inl rfl, Text.numeral_toDigits (by decide) (by decide) n⟩

/-- A side of sixteen bits has at most five digits. -/
theorem token_digitBytes (side : UInt16) : Token (digitBytes side.toNat) where
  nonempty := by simp [digitBytes, Nat.toDigits_ne_nil]
  short := by
    have small : side.toNat < 10 ^ 8 := Nat.lt_trans side.toNat_lt (by decide)
    rw [digitBytes, List.length_map]
    exact Nat.toDigits_length 10 side.toNat 8 (by decide) small
  visible := by
    intro byte member
    obtain ⟨c, digit, rfl⟩ := List.mem_map.mp member
    have range := range_of_digit digit
    rw [isGraphic, Bool.and_eq_true, decide_eq_true_eq, decide_eq_true_eq, UInt8.le_iff_toNat_le,
      UInt8.le_iff_toNat_le, ← UInt8.toNat_inj.ne, toNat_digitByte digit]
    change (33 ≤ _ ∧ _ ≤ 126) ∧ _ ≠ 35
    omega

/-- The pieces that a bitmap is written in. -/
def written (b : Bitmap) : Pieces where
  lead := []
  gap := [newline]
  width := digitBytes b.size.width.toNat
  between := [0x20]
  height := digitBytes b.size.height.toNat
  separator := newline
  rows := b.bytes.toList

theorem file_written (b : Bitmap) : (written b).file = write b := by
  have plain (s : String) : toString s = s := rfl
  simp [Pieces.file, written, write, asciiBytes, header, plain, digitBytes, newline]

theorem spells_written (b : Bitmap) : (written b).Spells b.size where
  lead := .nil
  gap := ⟨.blank rfl .nil, List.cons_ne_nil _ _⟩
  width := ⟨token_digitBytes b.size.width, decimal_digitBytes _⟩
  between := ⟨.blank rfl .nil, List.cons_ne_nil _ _⟩
  height := ⟨token_digitBytes b.size.height, decimal_digitBytes _⟩
  separator := rfl
  rows := b.bytes_size

/-- A bitmap that is written and read again under its own size is the same bitmap. -/
theorem read_write_self (b : Bitmap) : read b.size (write b) = .ok b := by
  rw [← file_written]
  exact read_complete (spells_written b) rfl

/-- Whatever a bitmap contains, its file gives it back under its own size. Under any
other size the file is refused for its dimensions. -/
theorem read_write (b : Bitmap) (expected : Size) :
    read expected (write b) =
      if expected = b.size then .ok b
      else .error (.format (.unexpectedSize b.size expected)) := by
  split
  · next same =>
    rw [same]
    exact read_write_self b
  · next other =>
    rw [← file_written, read_headed (spells_written b).headed, checkSize, if_pos (Ne.symm other)]
    rfl

end LcdCompositor.Netpbm
