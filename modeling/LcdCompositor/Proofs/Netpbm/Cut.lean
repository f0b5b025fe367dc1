import LcdCompositor.Proofs.Netpbm.Grammar

/-!
# Files that end too early or too late

A file that is accepted consists of a header, which the separator ends, and of the rows. Bytes
behind the rows are reported as such. A file that ends inside the rows is reported by how many
of their bytes are there, and one that ends in front of the separator by there being none. A
file that ends where the height has not begun yet, without cutting another token, ends inside
its header. All of these count as faults of reading.

Behind the last statement stands that a piece of filler, cut anywhere, even inside a comment,
leaves the reader in search of a token until the end of the file.
-/

namespace LcdCompositor.Netpbm

variable {filler cut : List UInt8} {expected size : Size}

/-! ## Filler that breaks off -/

/-- The part of the filler that is there still ends the token in front of it. -/
theorem Filler.stops_cut (isFiller : Filler filler) (nonempty : filler ≠ [])
    (front : cut <+: filler) : Stops cut := by
  have stops : Stops (filler ++ []) := isFiller.stops nonempty
  intro byte first
  apply stops
  obtain ⟨rest, rfl⟩ := front
  obtain ⟨more, rfl⟩ := List.head?_eq_some_iff.mp first
  rfl

/-- If a token began in the part of the filler that is there, it would begin in the filler. -/
theorem skipBlanks_cut (isFiller : Filler filler) (front : cut <+: filler) :
    skipBlanks false cut = [] := by
  cases found : skipBlanks false cut with
  | nil => rfl
  | cons byte rest =>
    obtain ⟨visible, passed, skipped, rfl⟩ := skipBlanks_eq_cons_iff.mp found
    obtain ⟨more, rfl⟩ := front
    have token : skipBlanks false (passed ++ byte :: rest ++ more) = byte :: (rest ++ more) := by
      rw [List.append_assoc, skipBlanks_filler skipped]
      exact skipBlanks_eq_self visible
    have none : skipBlanks false (passed ++ byte :: rest ++ more ++ []) = [] :=
      skipBlanks_filler isFiller
    rw [List.append_nil, token] at none
    cases none

theorem readToken_cut (isFiller : Filler filler) (front : cut <+: filler) :
    readToken cut = .error (.io .endsInHeader) := by
  rw [readToken, skipBlanks_cut isFiller front]

/-! ## Where a file can be cut -/

namespace Pieces

/-- The header with its separator. -/
def header (p : Pieces) : List UInt8 :=
  p.lead ++ ([0x50, 0x34] ++ (p.gap ++ (p.width ++ (p.between ++ (p.height ++ [p.separator])))))

/-- Bytes in front of the magic token. -/
def magicStart (p : Pieces) : Nat := p.lead.length

/-- Bytes in front of the width. -/
def widthStart (p : Pieces) : Nat := p.magicStart + 2 + p.gap.length

/-- Bytes in front of the height. -/
def heightStart (p : Pieces) : Nat := p.widthStart + p.width.length + p.between.length

/-- The first `n` bytes end before the height begins, and not inside another token. -/
structure EndsEarly (p : Pieces) (n : Nat) : Prop where
  early : n ≤ p.heightStart
  magic : ¬ (p.magicStart < n ∧ n < p.magicStart + 2)
  width : ¬ (p.widthStart < n ∧ n < p.widthStart + p.width.length)

theorem header_append (p : Pieces) (rest : List UInt8) :
    p.header ++ rest = p.lead ++ ([0x50, 0x34] ++ (p.gap ++ (p.width ++ (p.between ++
      (p.height ++ p.separator :: rest))))) := by
  unfold header
  simp only [List.append_assoc, List.singleton_append]

theorem header_append_rows (p : Pieces) : p.header ++ p.rows = p.file := p.header_append p.rows

theorem dropLast_header (p : Pieces) :
    p.header.dropLast = p.lead ++ ([0x50, 0x34] ++ (p.gap ++ (p.width ++ (p.between ++
      (p.height ++ []))))) := by
  have ending : p.header = (p.lead ++ ([0x50, 0x34] ++ (p.gap ++ (p.width ++ (p.between ++
      (p.height ++ [])))))) ++ [p.separator] := by
    unfold header
    simp only [List.append_assoc, List.append_nil]
  rw [ending, List.dropLast_concat]

/-- The three stretches of filler that a header can end in without cutting a token. -/
theorem EndsEarly.cases {p : Pieces} {n : Nat} (early : p.EndsEarly n) :
    (∃ cut, cut <+: p.lead ∧ p.header.take n = cut) ∨
    (∃ cut, cut <+: p.gap ∧ p.header.take n = p.lead ++ ([0x50, 0x34] ++ cut)) ∨
    (∃ cut, cut <+: p.between ∧
      p.header.take n = p.lead ++ ([0x50, 0x34] ++ (p.gap ++ (p.width ++ cut)))) := by
  obtain ⟨early, magic, width⟩ := early
  have two : ([0x50, 0x34] : List UInt8).length = 2 := rfl
  unfold heightStart at early
  unfold widthStart at early width
  unfold magicStart at early magic width
  unfold header
  by_cases inLead : n ≤ p.lead.length
  · refine .inl ⟨_, List.take_prefix n p.lead, ?_⟩
    rw [List.take_append_of_le_length inLead]
  by_cases inGap : n ≤ p.lead.length + 2 + p.gap.length
  · obtain ⟨m, rfl⟩ : ∃ m, n = p.lead.length + (2 + m) := ⟨n - (p.lead.length + 2), by omega⟩
    refine .inr (.inl ⟨_, List.take_prefix m p.gap, ?_⟩)
    rw [List.take_length_add_append, ← two, List.take_length_add_append,
      List.take_append_of_le_length (by omega)]
  · obtain ⟨m, rfl⟩ : ∃ m, n = p.lead.length + (2 + (p.gap.length + (p.width.length + m))) :=
      ⟨n - (p.lead.length + 2 + p.gap.length + p.width.length), by omega⟩
    refine .inr (.inr ⟨_, List.take_prefix m p.between, ?_⟩)
    rw [List.take_length_add_append, ← two, List.take_length_add_append,
      List.take_length_add_append, List.take_length_add_append,
      List.take_append_of_le_length (by omega)]

end Pieces

/-! ## What is reported -/

variable {p : Pieces}

/-- A header that breaks off in filler is reported by the token that is missing. -/
theorem read_take_header (headed : p.Headed size) {n : Nat} (early : p.EndsEarly n) :
    read expected (p.header.take n) = .error (.io .endsInHeader) := by
  rcases early.cases with ⟨cut, front, taken⟩ | ⟨cut, front, taken⟩ | ⟨cut, front, taken⟩
  · rw [taken, read, readToken_cut headed.lead front]
    rfl
  · have atGap : Stops cut := headed.gap.1.stops_cut headed.gap.2 front
    rw [taken, read_of_magic headed.lead atGap, readSides,
      readToken_cut headed.gap.1 front]
    rfl
  · have atBetween : Stops cut := headed.between.1.stops_cut headed.between.2 front
    have atGap : Stops (p.gap ++ (p.width ++ cut)) := headed.gap.1.stops headed.gap.2
    rw [taken, read_of_magic headed.lead atGap, readSides_of_width headed.gap.1 headed.width
      atBetween, readHeight, readToken_cut headed.between.1 front]
    rfl

/-- Behind the header of the expected size, what is there of the rows is compared with what
the size asks for. -/
theorem read_header_append (headed : p.Headed size) (aligned : size.width.toNat % 8 = 0)
    (rows : List UInt8) : read size (p.header ++ rows) = readRows size (p.separator :: rows) := by
  rw [p.header_append, read_tokens headed headed.stops, checkSize_eq_ok_iff.mpr ⟨rfl, aligned⟩]
  rfl

theorem read_dropLast_header (headed : p.Headed size) (aligned : size.width.toNat % 8 = 0) :
    read size p.header.dropLast = .error (.shortRead size.packedLength 0) := by
  have atEnd : Stops [] := by
    rintro _ ⟨⟩
  rw [p.dropLast_header, read_tokens headed atEnd, checkSize_eq_ok_iff.mpr ⟨rfl, aligned⟩]
  rfl

theorem readRows_of_short {separator : UInt8} {rows : List UInt8}
    (blank : isBlank separator = true) (short : rows.length < size.packedLength) :
    readRows size (separator :: rows) = .error (.shortRead size.packedLength rows.length) := by
  rw [readRows, if_pos blank, if_pos short]

theorem readRows_of_long {separator : UInt8} {rows : List UInt8}
    (blank : isBlank separator = true) (long : size.packedLength < rows.length) :
    readRows size (separator :: rows) = .error .trailingData := by
  rw [readRows, if_pos blank, if_neg (Nat.lt_asymm long), if_pos long]

/-- A file is refused for a fault that counts as one of reading. -/
structure Refused (expected : Size) (bytes : List UInt8) (fault : Fault) : Prop where
  read : read expected bytes = .error fault
  isIo : fault.isIo = true

/-- However a file that is accepted is cut into a header and rows: with more bytes behind it, it
is refused for these; cut inside its rows, for as many bytes as are there; without the
separator, for there being none; and cut before the height begins, but not inside another
token, for ending in its header. These are faults of reading. -/
theorem read_cut {expected : Size} {bytes : List UInt8} {picture : Bitmap}
    (accepted : read expected bytes = .ok picture) :
    (∃ p : Pieces, p.Spells expected ∧ p.file = bytes) ∧
    ∀ p : Pieces, p.Spells expected → p.file = bytes →
      p.header ++ p.rows = bytes ∧
      (∀ extra, extra ≠ [] → Refused expected (bytes ++ extra) .trailingData) ∧
      (∀ k < p.rows.length,
        Refused expected (p.header ++ p.rows.take k) (.shortRead p.rows.length k)) ∧
      Refused expected p.header.dropLast (.shortRead p.rows.length 0) ∧
      ∀ n, p.EndsEarly n → Refused expected (p.header.take n) (.io .endsInHeader) := by
  obtain ⟨rfl, p, spells, file, -⟩ := read_sound accepted
  refine ⟨⟨p, spells, file⟩, ?_⟩
  clear p spells file
  rintro p spells rfl
  have headed := spells.headed
  have aligned := picture.aligned
  have length : p.rows.length = picture.size.packedLength := spells.rows
  refine ⟨p.header_append_rows, ?trailing, ?short, ?bare, ?early⟩
  case trailing =>
    intro extra some
    refine ⟨?_, rfl⟩
    rw [← p.header_append_rows, List.append_assoc, read_header_append headed aligned]
    apply readRows_of_long spells.separator
    have more := List.length_pos_iff.mpr some
    rw [List.length_append]
    omega
  case short =>
    intro k few
    refine ⟨?_, rfl⟩
    have there : (p.rows.take k).length = k := List.length_take_of_le (Nat.le_of_lt few)
    rw [read_header_append headed aligned, readRows_of_short spells.separator (by omega), there,
      length]
  case bare =>
    refine ⟨?_, rfl⟩
    rw [read_dropLast_header headed aligned, length]
  case early =>
    intro n early
    exact ⟨read_take_header headed early, rfl⟩

/-- One byte more, no row, no separator, an open comment and nothing at all. -/
theorem read_cut_comment :
    let file := asciiBytes "P4#a\n8 1\n#"
    read ⟨8, 1⟩ file = .ok ⟨⟨8, 1⟩, #[hash], by decide, by decide⟩ ∧
      Refused ⟨8, 1⟩ (file ++ [hash]) .trailingData ∧
      Refused ⟨8, 1⟩ (file.take 9) (.shortRead 1 0) ∧
      Refused ⟨8, 1⟩ (file.take 8) (.shortRead 1 0) ∧
      Refused ⟨8, 1⟩ (file.take 4) (.io .endsInHeader) ∧
      Refused ⟨8, 1⟩ [] (.io .endsInHeader) := by
  let p : Pieces := ⟨[], [0x23, 0x61, 0x0a], [0x38], [0x20], [0x31], newline, [hash]⟩
  let picture : Bitmap := ⟨⟨8, 1⟩, #[hash], by decide, by decide⟩
  have line : newline ∉ [(0x61 : UInt8)] := by decide
  have spells : p.Spells ⟨8, 1⟩ := {
    lead := .nil
    gap := ⟨.comment line .nil, by decide⟩
    width := ⟨⟨by decide, by decide, by decide +kernel⟩, [0x38], by decide, .inl rfl,
      by decide +kernel, rfl⟩
    between := ⟨.blank rfl .nil, by decide⟩
    height := ⟨⟨by decide, by decide, by decide +kernel⟩, [0x31], by decide, .inl rfl,
      by decide +kernel, rfl⟩
    separator := rfl
    rows := rfl }
  have accepted : read picture.size p.file = .ok picture := read_complete spells rfl
  obtain ⟨-, trailing, short, bare, early⟩ := (read_cut accepted).2 p spells rfl
  exact ⟨accepted, trailing [hash] (by decide), short 0 (by decide), bare,
    early 4 ⟨by decide, by decide, by decide⟩, early 0 ⟨by decide, by decide, by decide⟩⟩

end LcdCompositor.Netpbm
