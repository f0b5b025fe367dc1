import LcdCompositor.Netpbm
import LcdCompositor.Proofs.Result
import LcdCompositor.Proofs.Text.Numeral
import Mathlib.Data.List.Forall2

/-!
# The language of packed bitmap files

A file of the raw format is cut into pieces: filler, the magic token, filler, the
width, filler, the height, one blank and the rows. What a piece may be is said
without the reader: filler is a row of blanks and of comments that are closed by a
newline, a token is short and visible, and a side is digits behind at most one plus
sign. The reader accepts exactly the files that can be cut so, and the rows are what
is left when the header is taken away, whatever byte they start with.

A scanning function has two lemmas: it takes a piece of the right form off the front,
and what it took was a piece of that form. A token ends where a blank or a comment
starts, and filler ends where neither does; so two tokens need filler between them.
-/

namespace LcdCompositor.Netpbm

/-! ## Filler -/

/-- Blanks and comments, each comment with the newline that closes it. -/
inductive Filler : List UInt8 → Prop
  | nil : Filler []
  | blank {byte : UInt8} {rest : List UInt8} (white : isBlank byte = true)
      (more : Filler rest) : Filler (byte :: rest)
  | comment {text rest : List UInt8} (line : newline ∉ text) (more : Filler rest) :
      Filler (hash :: text ++ newline :: rest)

/-- A byte at which a token ends: a blank or the start of a comment. -/
def EndsToken (byte : UInt8) : Prop := isBlank byte = true ∨ byte = hash

/-- Nothing is left, or the first byte left ends a token. -/
def Stops (left : List UInt8) : Prop := ∀ byte ∈ left.head?, EndsToken byte

variable {bytes left rest filler token : List UInt8}

theorem Filler.stops (isFiller : Filler filler) (nonempty : filler ≠ []) :
    Stops (filler ++ rest) := by
  cases isFiller with
  | nil => exact absurd rfl nonempty
  | blank white _ =>
    rintro _ ⟨⟩
    exact .inl white
  | comment =>
    rintro _ ⟨⟩
    exact .inr rfl

theorem skipBlanks_comment {text : List UInt8} (line : newline ∉ text) :
    skipBlanks true (text ++ newline :: rest) = skipBlanks false rest := by
  induction text with
  | nil => rfl
  | cons byte text ih =>
    obtain ⟨inside, line⟩ := List.ne_and_not_mem_of_not_mem_cons line
    rw [List.cons_append, skipBlanks, if_pos rfl, bne_iff_ne.mpr (Ne.symm inside)]
    exact ih line

theorem skipBlanks_filler (isFiller : Filler filler) :
    skipBlanks false (filler ++ rest) = skipBlanks false rest := by
  induction isFiller with
  | nil => rfl
  | @blank byte filler blank _ ih =>
    have notHash : (byte == hash) = false := by
      rw [beq_eq_false_iff_ne]
      rintro rfl
      exact absurd blank (by decide)
    rw [List.cons_append, skipBlanks, notHash, blank]
    exact ih
  | @comment text filler line _ ih =>
    rw [List.append_assoc, List.cons_append, List.cons_append]
    exact (skipBlanks_comment line).trans ih

theorem skipBlanks_eq_self {byte : UInt8} (visible : ¬ EndsToken byte) :
    skipBlanks false (byte :: rest) = byte :: rest := by
  obtain ⟨notBlank, notHash⟩ := not_or.mp visible
  rw [skipBlanks, beq_eq_false_iff_ne.mpr notHash, Bool.eq_false_iff.mpr notBlank]
  rfl

/-- What was skipped, given whether a comment was open: filler, behind the rest of the
open comment. -/
def Skipped : Bool → List UInt8 → Prop
  | false, passed => Filler passed
  | true, passed => ∃ text filler, newline ∉ text ∧ Filler filler ∧
      passed = text ++ newline :: filler

/-- A newline closes the open comment, and any other byte belongs to it. -/
theorem Skipped.cons {byte : UInt8} {passed : List UInt8}
    (skipped : Skipped (byte != newline) passed) : Skipped true (byte :: passed) := by
  cases closes : byte != newline with
  | true =>
    rw [closes] at skipped
    obtain ⟨text, filler, line, isFiller, rfl⟩ := skipped
    refine ⟨byte :: text, filler, ?_, isFiller, rfl⟩
    exact List.not_mem_cons_of_ne_of_not_mem (bne_iff_ne.mp closes).symm line
  | false =>
    rw [closes] at skipped
    obtain rfl : byte = newline := by simpa using closes
    exact ⟨[], passed, List.not_mem_nil, skipped, rfl⟩

/-- Behind a hash the rest of an open comment makes it whole. -/
theorem Skipped.comment {passed : List UInt8} (skipped : Skipped true passed) :
    Filler (hash :: passed) := by
  obtain ⟨text, filler, line, isFiller, rfl⟩ := skipped
  exact .comment line isFiller

/-- The induction is on the bytes, for both states of the scanner together, because a
comment leads from the one to the other and back. -/
theorem skipped_of_skipBlanks {inComment : Bool} {byte : UInt8}
    (found : skipBlanks inComment bytes = byte :: rest) :
    ¬ EndsToken byte ∧ ∃ passed, Skipped inComment passed ∧ bytes = passed ++ byte :: rest := by
  induction bytes generalizing inComment with
  | nil => cases found
  | cons first bytes ih =>
    rw [skipBlanks] at found
    cases inComment with
    | true =>
      rw [if_pos rfl] at found
      obtain ⟨visible, passed, skipped, rfl⟩ := ih found
      exact ⟨visible, first :: passed, skipped.cons, rfl⟩
    | false =>
      rw [if_neg Bool.false_ne_true] at found
      split at found
      · next isHash =>
        obtain rfl := beq_iff_eq.mp isHash
        obtain ⟨visible, passed, skipped, rfl⟩ := ih found
        exact ⟨visible, hash :: passed, skipped.comment, rfl⟩
      · next notHash =>
        split at found
        · next white =>
          obtain ⟨visible, passed, skipped, rfl⟩ := ih found
          exact ⟨visible, first :: passed, .blank white skipped, rfl⟩
        · next notBlank =>
          cases found
          exact ⟨not_or.mpr ⟨notBlank, by simpa using notHash⟩, [], .nil, rfl⟩

theorem skipBlanks_eq_cons_iff {byte : UInt8} :
    skipBlanks false bytes = byte :: rest ↔
      ¬ EndsToken byte ∧ ∃ filler, Filler filler ∧ bytes = filler ++ byte :: rest := by
  constructor
  · exact skipped_of_skipBlanks
  · rintro ⟨visible, filler, isFiller, rfl⟩
    rw [skipBlanks_filler isFiller, skipBlanks_eq_self visible]

/-! ## Tokens -/

/-- One to eight visible bytes, none of them a hash. -/
structure Token (token : List UInt8) : Prop where
  nonempty : token ≠ []
  short : token.length ≤ 8
  visible : ∀ byte ∈ token, isGraphic byte = true ∧ byte ≠ hash

theorem not_endsToken {byte : UInt8} (visible : isGraphic byte = true ∧ byte ≠ hash) :
    ¬ EndsToken byte := by
  rintro (blank | isHash)
  · simp only [isBlank, Bool.or_eq_true, beq_iff_eq] at blank
    obtain (((rfl | rfl) | rfl) | rfl) | rfl := blank <;> cases visible.1
  · exact visible.2 isHash

theorem Token.not_stops (isToken : Token token) : ¬ Stops (token ++ rest) := by
  intro stops
  cases token with
  | nil => exact isToken.nonempty rfl
  | cons byte token =>
    exact not_endsToken (isToken.visible byte List.mem_cons_self) (stops byte rfl)

theorem splitToken_of_stops {room : Nat} (stops : Stops left) :
    splitToken room left = .ok ([], left) := by
  cases left with
  | nil => rw [splitToken]
  | cons byte left =>
    have ends : (isBlank byte || byte == hash) = true := by
      simpa [EndsToken] using stops byte rfl
    rw [splitToken.eq_def]
    exact if_pos ends

theorem splitToken_cons {room : Nat} {byte : UInt8}
    (visible : isGraphic byte = true ∧ byte ≠ hash) :
    splitToken (room + 1) (byte :: rest) =
      (splitToken room rest).map fun (token, left) => (byte :: token, left) := by
  have goesOn : ¬ (isBlank byte || byte == hash) = true := by
    simpa [EndsToken] using not_endsToken visible
  rw [splitToken.eq_def]
  dsimp only
  rw [if_neg goesOn, if_pos visible.1]

theorem splitToken_complete {room : Nat} (short : token.length ≤ room)
    (visible : ∀ byte ∈ token, isGraphic byte = true ∧ byte ≠ hash) (stops : Stops left) :
    splitToken room (token ++ left) = .ok (token, left) := by
  induction token generalizing room with
  | nil => exact splitToken_of_stops stops
  | cons byte token ih =>
    obtain ⟨head, tail⟩ := List.forall_mem_cons.mp visible
    cases room with
    | zero => cases short
    | succ room =>
      rw [List.cons_append, splitToken_cons head, ih (Nat.le_of_succ_le_succ short) tail]
      rfl

theorem splitToken_sound {room : Nat} (found : splitToken room bytes = .ok (token, left)) :
    token.length ≤ room ∧ (∀ byte ∈ token, isGraphic byte = true ∧ byte ≠ hash) ∧
      Stops left ∧ bytes = token ++ left := by
  fun_induction splitToken room bytes generalizing token with
  | case1 room =>
    cases found
    exact ⟨Nat.zero_le room, by simp, by rintro _ ⟨⟩, rfl⟩
  | case2 room byte rest ends =>
    cases found
    refine ⟨Nat.zero_le room, by simp, ?_, rfl⟩
    rintro _ ⟨⟩
    simpa [EndsToken] using ends
  | case3 => cases found
  | case4 byte rest goesOn room graphic ih =>
    obtain ⟨⟨token, left⟩, found, same⟩ := map_eq_ok_iff.mp found
    cases same
    obtain ⟨short, visible, stops, rfl⟩ := ih found
    have notHash : byte ≠ hash := by
      rintro rfl
      exact goesOn rfl
    exact ⟨Nat.succ_le_succ short, List.forall_mem_cons.mpr ⟨⟨graphic, notHash⟩, visible⟩,
      stops, rfl⟩
  | case5 => cases found

theorem readToken_complete (isFiller : Filler filler) (isToken : Token token)
    (stops : Stops left) :
    readToken (filler ++ (token ++ left)) = .ok (asciiText token, left) := by
  cases token with
  | nil => exact absurd rfl isToken.nonempty
  | cons byte token =>
    have visible : ¬ EndsToken byte := not_endsToken (isToken.visible byte List.mem_cons_self)
    have start : skipBlanks false (filler ++ (byte :: token ++ left)) = byte :: (token ++ left) :=
      skipBlanks_eq_cons_iff.mpr ⟨visible, filler, isFiller, rfl⟩
    rw [readToken, start]
    exact map_eq_ok_iff.mpr
      ⟨(byte :: token, left), splitToken_complete isToken.short isToken.visible stops, rfl⟩

theorem readToken_sound {text : String} (found : readToken bytes = .ok (text, left)) :
    ∃ filler token, Filler filler ∧ Token token ∧ Stops left ∧
      text = asciiText token ∧ bytes = filler ++ (token ++ left) := by
  rw [readToken] at found
  split at found
  · cases found
  · next byte rest start =>
    obtain ⟨visible, filler, isFiller, rfl⟩ := skipBlanks_eq_cons_iff.mp start
    obtain ⟨⟨token, left⟩, taken, same⟩ := map_eq_ok_iff.mp found
    cases same
    obtain ⟨short, graphic, stops, same⟩ := splitToken_sound taken
    refine ⟨filler, token, isFiller, ⟨?_, short, graphic⟩, stops, rfl, by rw [same]⟩
    rintro rfl
    obtain rfl : byte :: rest = left := same
    exact visible (stops byte rfl)

/-! ## Sides -/

/-- The number that a row of decimal digits stands for, the first digit being the
most significant. -/
def decimalValue (digits : List UInt8) : Nat :=
  Nat.ofDigits 10 (digits.reverse.map fun byte => byte.toNat - 0x30)

/-- Decimal digits, with or without a plus sign in front, that stand for a number. -/
def Decimal (token : List UInt8) (n : Nat) : Prop :=
  ∃ digits, digits ≠ [] ∧ (token = digits ∨ token = 0x2b :: digits) ∧
    (∀ byte ∈ digits, 0x30 ≤ byte ∧ byte ≤ 0x39) ∧ decimalValue digits = n

theorem toNat_ofNat_byte (byte : UInt8) : (Char.ofNat byte.toNat).toNat = byte.toNat := by
  have small : byte.toNat < 256 := byte.toNat_lt
  have valid : byte.toNat.isValidChar := .inl (by omega)
  rw [Char.ofNat, dif_pos valid]
  rfl

theorem ofNat_byte_injective : Function.Injective fun byte : UInt8 => Char.ofNat byte.toNat := by
  intro byte other same
  apply UInt8.toNat_inj.mp
  rw [← toNat_ofNat_byte byte, ← toNat_ofNat_byte other]
  exact congrArg Char.toNat same

theorem toList_asciiText :
    (asciiText token).toList = token.map fun byte => Char.ofNat byte.toNat := by
  rw [asciiText, String.toList_ofList]

theorem asciiText_eq_iff {other : List UInt8} :
    asciiText token = asciiText other ↔ token = other := by
  rw [← String.toList_inj, toList_asciiText, toList_asciiText,
    (List.map_injective_iff.mpr ofNat_byte_injective).eq_iff]

theorem digitValue_ofNat_byte {byte : UInt8} {d : Nat} :
    Text.digitValue 10 (Char.ofNat byte.toNat) = some d ↔
      (0x30 ≤ byte ∧ byte ≤ 0x39) ∧ byte.toNat - 0x30 = d := by
  rw [Text.digitValue, toNat_ofNat_byte, UInt8.le_iff_toNat_le, UInt8.le_iff_toNat_le,
    Option.ite_none_right_eq_some, Option.some.injEq]
  change _ ↔ (48 ≤ byte.toNat ∧ byte.toNat ≤ 57) ∧ _
  simp only [Bool.and_eq_true, decide_eq_true_eq]
  split_ifs <;> omega

theorem numeral_map_ofNat_iff {digits : List UInt8} {n : Nat} :
    Text.Numeral 10 (digits.map fun byte => Char.ofNat byte.toNat) n ↔
      (∀ byte ∈ digits, 0x30 ≤ byte ∧ byte ≤ 0x39) ∧ decimalValue digits = n := by
  have valuewise (values : List Nat) :
      List.Forall₂ (fun (byte : UInt8) d => byte.toNat - 0x30 = d) digits values ↔
        digits.map (fun byte => byte.toNat - 0x30) = values := by
    rw [← List.forall₂_map_left_iff (R := Eq), List.forall₂_eq_eq_eq]
  simp only [Text.Numeral, List.forall₂_map_left_iff, digitValue_ofNat_byte, List.forall₂_and_left,
    valuewise]
  constructor
  · rintro ⟨_, ⟨digitwise, rfl⟩, value⟩
    exact ⟨digitwise, by rw [decimalValue, List.map_reverse, value]⟩
  · rintro ⟨digitwise, value⟩
    exact ⟨_, ⟨digitwise, rfl⟩, by rw [← List.map_reverse]; exact value⟩

theorem unsigned_asciiText_iff {n : Nat} :
    Text.Unsigned 10 (asciiText token).toList n ↔ Decimal token n := by
  have plus : Char.ofNat (0x2b : UInt8).toNat = '+' := rfl
  rw [toList_asciiText, Text.Unsigned, Decimal]
  constructor
  · rintro ⟨_, nonempty, rfl | same, number⟩
    · exact ⟨token, by simpa using nonempty, .inl rfl, numeral_map_ofNat_iff.mp number⟩
    · obtain ⟨sign, digits, rfl, isPlus, rfl⟩ := List.map_eq_cons_iff.mp same
      obtain rfl : sign = 0x2b := ofNat_byte_injective (isPlus.trans plus.symm)
      exact ⟨digits, by simpa using nonempty, .inr rfl, numeral_map_ofNat_iff.mp number⟩
  · rintro ⟨digits, nonempty, written, digitwise⟩
    refine ⟨_, mt List.map_eq_nil_iff.mp nonempty, ?_, numeral_map_ofNat_iff.mpr digitwise⟩
    exact written.imp (congrArg _) (congrArg _)

theorem dimension_eq_ok_iff {axis : Axis} {side : UInt16} :
    dimension axis (asciiText token) = .ok side ↔ Decimal token side.toNat := by
  have small : side.toNat ≤ 65535 := Nat.le_of_lt_succ side.toNat_lt
  have read : Text.readUnsigned 10 65535 (asciiText token) = .ok side.toNat ↔
      Decimal token side.toNat := by
    rw [Text.readUnsigned_eq_ok_iff, unsigned_asciiText_iff]
    exact and_iff_left small
  rw [← read, dimension]
  split
  · next n found =>
    obtain ⟨-, below⟩ := Text.readUnsigned_eq_ok_iff.mp found
    have back : n.toUInt16.toNat = n := Nat.mod_eq_of_lt (Nat.lt_succ_of_le below)
    rw [found, Except.ok.injEq, Except.ok.injEq]
    constructor
    · rintro rfl
      exact back.symm
    · intro same
      rw [← UInt16.toNat_inj, back, same]
  · next unread =>
    rw [unread]
    constructor <;> rintro ⟨⟩

/-! ## Files -/

/-- The pieces that a file is made of, from front to back. -/
structure Pieces where
  lead : List UInt8
  gap : List UInt8
  width : List UInt8
  between : List UInt8
  height : List UInt8
  separator : UInt8
  rows : List UInt8

namespace Pieces

/-- The file of the pieces. -/
def file (p : Pieces) : List UInt8 :=
  p.lead ++ ([0x50, 0x34] ++ (p.gap ++ (p.width ++ (p.between ++ (p.height ++
    (p.separator :: p.rows))))))

/-- The pieces have the right form and spell a picture of the given size. -/
structure Spells (p : Pieces) (size : Size) : Prop where
  lead : Filler p.lead
  gap : Filler p.gap ∧ p.gap ≠ []
  width : Token p.width ∧ Decimal p.width size.width.toNat
  between : Filler p.between ∧ p.between ≠ []
  height : Token p.height ∧ Decimal p.height size.height.toNat
  separator : isBlank p.separator = true
  rows : p.rows.length = size.width.toNat / 8 * size.height.toNat

/-- The pieces up to the separator have the right form and name a size. -/
structure Headed (p : Pieces) (size : Size) : Prop where
  lead : Filler p.lead
  gap : Filler p.gap ∧ p.gap ≠ []
  width : Token p.width ∧ Decimal p.width size.width.toNat
  between : Filler p.between ∧ p.between ≠ []
  height : Token p.height ∧ Decimal p.height size.height.toNat
  separator : isBlank p.separator = true

theorem Spells.headed {p : Pieces} {size : Size} (spells : p.Spells size) : p.Headed size :=
  ⟨spells.lead, spells.gap, spells.width, spells.between, spells.height, spells.separator⟩

end Pieces

theorem checkSize_eq_ok_iff {found expected : Size} :
    checkSize found expected = .ok () ↔ found = expected ∧ expected.width.toNat % 8 = 0 := by
  rw [checkSize]
  split_ifs with other unaligned
  · exact iff_of_false nofun fun ⟨same, _⟩ => other same
  · obtain rfl := not_not.mp other
    exact iff_of_false nofun fun ⟨_, aligned⟩ => unaligned aligned
  · obtain rfl := not_not.mp other
    exact iff_of_true rfl ⟨rfl, not_not.mp unaligned⟩

theorem readRows_eq_ok_iff {size : Size} {picture : Bitmap} :
    readRows size left = .ok picture ↔ picture.size = size ∧
      ∃ separator, isBlank separator = true ∧ left = separator :: picture.bytes.toList := by
  constructor
  · intro made
    cases left with
    | nil => cases made
    | cons separator rows =>
      rw [readRows] at made
      split_ifs at made with blank
      obtain ⟨sized, same⟩ := Bitmap.ofBytes_eq_ok_iff.mp made
      exact ⟨sized, separator, blank, by rw [same]⟩
  · rintro ⟨rfl, separator, blank, rfl⟩
    have length : picture.bytes.toList.length = picture.size.packedLength := picture.bytes_size
    rw [readRows, if_pos blank, length, if_neg (Nat.lt_irrefl _), if_neg (Nat.lt_irrefl _),
      Bitmap.ofBytes_eq_ok_iff]
    exact ⟨rfl, rfl⟩

variable {expected : Size} {picture : Bitmap}

/-- What is left of reading behind the width. -/
def readHeight (expected : Size) (width : UInt16) (bytes : List UInt8) : Except Fault Bitmap := do
  let (token, bytes) ← readToken bytes
  let height ← dimension .vertical token
  checkSize ⟨width, height⟩ expected
  readRows expected bytes

/-- What is left of reading behind the magic token. -/
def readSides (expected : Size) (bytes : List UInt8) : Except Fault Bitmap := do
  let (token, bytes) ← readToken bytes
  let width ← dimension .horizontal token
  readHeight expected width bytes

theorem read_of_magic {lead : List UInt8} (isLead : Filler lead) (stops : Stops left) :
    read expected (lead ++ ([0x50, 0x34] ++ left)) = readSides expected left := by
  have magic : Token [0x50, 0x34] := ⟨by decide, by decide, by decide +kernel⟩
  have spelling : asciiText [0x50, 0x34] = "P4" := rfl
  rw [read, readToken_complete isLead magic stops]
  dsimp only [bind, Except.bind]
  rw [if_neg (not_not.mpr spelling)]
  rfl

theorem readSides_of_width {gap width : List UInt8} {columns : UInt16} (isGap : Filler gap)
    (isWidth : Token width ∧ Decimal width columns.toNat) (stops : Stops left) :
    readSides expected (gap ++ (width ++ left)) = readHeight expected columns left := by
  have value : dimension .horizontal (asciiText width) = .ok columns :=
    dimension_eq_ok_iff.mpr isWidth.2
  rw [readSides, readToken_complete isGap isWidth.1 stops]
  dsimp only [bind, Except.bind]
  rw [value]

theorem readHeight_of_height {between height : List UInt8} {columns lines : UInt16}
    (isBetween : Filler between) (isHeight : Token height ∧ Decimal height lines.toNat)
    (stops : Stops left) :
    readHeight expected columns (between ++ (height ++ left)) =
      (checkSize ⟨columns, lines⟩ expected >>= fun _ => readRows expected left) := by
  have value : dimension .vertical (asciiText height) = .ok lines :=
    dimension_eq_ok_iff.mpr isHeight.2
  rw [readHeight, readToken_complete isBetween isHeight.1 stops]
  dsimp only [bind, Except.bind]
  rw [value]

/-- The tokens of a header of the right form are read whole, whatever stands behind them. -/
theorem read_tokens {p : Pieces} {size : Size} (headed : p.Headed size) (stops : Stops left) :
    read expected (p.lead ++ ([0x50, 0x34] ++ (p.gap ++ (p.width ++ (p.between ++
        (p.height ++ left)))))) =
      (checkSize size expected >>= fun _ => readRows expected left) := by
  have atGap : Stops (p.gap ++ (p.width ++ (p.between ++ (p.height ++ left)))) :=
    headed.gap.1.stops headed.gap.2
  have atBetween : Stops (p.between ++ (p.height ++ left)) :=
    headed.between.1.stops headed.between.2
  rw [read_of_magic headed.lead atGap, readSides_of_width headed.gap.1 headed.width atBetween,
    readHeight_of_height headed.between.1 headed.height stops]

/-- The separator ends the token of the height. -/
theorem Pieces.Headed.stops {p : Pieces} {size : Size} (headed : p.Headed size) :
    Stops (p.separator :: rest) := by
  rintro _ ⟨⟩
  exact .inl headed.separator

/-- A header of the right form is read whole. What follows depends on the size that it
names, on the size that is expected and on the rows. -/
theorem read_headed {p : Pieces} {size : Size} (headed : p.Headed size) :
    read expected p.file =
      (checkSize size expected >>= fun _ => readRows expected (p.separator :: p.rows)) :=
  read_tokens headed headed.stops

theorem read_complete {p : Pieces} (spells : p.Spells picture.size)
    (rows : p.rows = picture.bytes.toList) : read picture.size p.file = .ok picture := by
  rw [read_headed spells.headed, bind_eq_ok_iff]
  refine ⟨(), checkSize_eq_ok_iff.mpr ⟨rfl, picture.aligned⟩, ?_⟩
  exact readRows_eq_ok_iff.mpr ⟨rfl, p.separator, spells.separator, by rw [rows]⟩

theorem read_sound (found : read expected bytes = .ok picture) :
    picture.size = expected ∧
      ∃ p : Pieces, p.Spells expected ∧ p.file = bytes ∧ p.rows = picture.bytes.toList := by
  rw [read, bind_eq_ok_iff] at found
  obtain ⟨⟨text, left⟩, magic, found⟩ := found
  dsimp only at found
  split at found
  · cases found
  next isMagic =>
  simp only [bind_eq_ok_iff] at found
  obtain ⟨⟨width, _⟩, readWidth, columns, widthValue, ⟨height, _⟩, readHeight, lines, heightValue,
    _, sized, made⟩ := found
  obtain ⟨lead, token, isLead, -, afterMagic, rfl, rfl⟩ := readToken_sound magic
  obtain ⟨gap, width, isGap, isWidth, afterWidth, rfl, rfl⟩ := readToken_sound readWidth
  obtain ⟨between, height, isBetween, isHeight, -, rfl, rfl⟩ := readToken_sound readHeight
  obtain rfl : token = [0x50, 0x34] := asciiText_eq_iff.mp (not_not.mp isMagic)
  obtain ⟨rfl, -⟩ := checkSize_eq_ok_iff.mp sized
  obtain ⟨size, separator, blank, rfl⟩ := readRows_eq_ok_iff.mp made
  -- Without filler in front of it a token would have gone on.
  have gap_ne : gap ≠ [] := by
    rintro rfl
    exact isWidth.not_stops afterMagic
  have between_ne : between ≠ [] := by
    rintro rfl
    exact isHeight.not_stops afterWidth
  refine ⟨size, ⟨lead, gap, width, between, height, separator, picture.bytes.toList⟩, ?_, rfl, rfl⟩
  exact {
    lead := isLead
    gap := ⟨isGap, gap_ne⟩
    width := ⟨isWidth, dimension_eq_ok_iff.mp widthValue⟩
    between := ⟨isBetween, between_ne⟩
    height := ⟨isHeight, dimension_eq_ok_iff.mp heightValue⟩
    separator := blank
    rows := by rw [← size]; exact picture.bytes_size }

/-- The reader accepts a file exactly if the width fills whole bytes and the file
consists of pieces that spell the expected size. The picture then has that size, and
its bytes are the rows as they stand in the file. -/
theorem read_accepts (expected : Size) (bytes : List UInt8) :
    ((∃ picture, read expected bytes = .ok picture) ↔
      expected.width.toNat % 8 = 0 ∧ ∃ p : Pieces, p.Spells expected ∧ p.file = bytes) ∧
    ∀ picture, read expected bytes = .ok picture ↔
      ∃ p : Pieces, p.Spells expected ∧ p.file = bytes ∧
        picture.size = expected ∧ picture.bytes.toList = p.rows := by
  constructor
  · constructor
    · rintro ⟨picture, found⟩
      obtain ⟨rfl, p, spells, file, -⟩ := read_sound found
      exact ⟨picture.aligned, p, spells, file⟩
    · rintro ⟨aligned, p, spells, rfl⟩
      have length : p.rows.toArray.size = expected.packedLength := spells.rows
      let picture : Bitmap := ⟨expected, p.rows.toArray, aligned, length⟩
      have same : p.rows = picture.bytes.toList := rfl
      have found : read picture.size p.file = .ok picture := read_complete spells same
      exact ⟨picture, found⟩
  · intro picture
    constructor
    · intro found
      obtain ⟨size, p, spells, file, rows⟩ := read_sound found
      exact ⟨p, spells, file, size, rows.symm⟩
    · rintro ⟨p, spells, rfl, rfl, rows⟩
      exact read_complete spells rows.symm

/-- Comments in every place where filler may stand, a sign and leading zeros; the only
byte of the picture is a hash. -/
theorem read_accepts_comments :
    read ⟨8, 1⟩ (asciiBytes "#t\nP4#a\n +08 #b\n001\n#") =
      .ok ⟨⟨8, 1⟩, #[hash], by decide, by decide⟩ := by
  let p : Pieces := ⟨[0x23, 0x74, 0x0a], [0x23, 0x61, 0x0a, 0x20], [0x2b, 0x30, 0x38],
    [0x20, 0x23, 0x62, 0x0a], [0x30, 0x30, 0x31], newline, [hash]⟩
  have line (byte : UInt8) (other : newline ≠ byte) : newline ∉ [byte] :=
    List.not_mem_cons_of_ne_of_not_mem other List.not_mem_nil
  have spells : p.Spells ⟨8, 1⟩ := {
    lead := .comment (line 0x74 (by decide)) .nil
    gap := ⟨.comment (line 0x61 (by decide)) (.blank rfl .nil), by decide⟩
    width := ⟨⟨by decide, by decide, by decide +kernel⟩, [0x30, 0x38], by decide, .inr rfl,
      by decide +kernel, rfl⟩
    between := ⟨.blank rfl (.comment (line 0x62 (by decide)) .nil), by decide⟩
    height := ⟨⟨by decide, by decide, by decide +kernel⟩, [0x30, 0x30, 0x31], by decide, .inl rfl,
      by decide +kernel, rfl⟩
    separator := rfl
    rows := rfl }
  have file : p.file = asciiBytes "#t\nP4#a\n +08 #b\n001\n#" := rfl
  rw [← file, (read_accepts ⟨8, 1⟩ p.file).2]
  exact ⟨p, spells, rfl, rfl, rfl⟩

end LcdCompositor.Netpbm
