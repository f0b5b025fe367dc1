import LcdCompositor.Netpbm

/-!
# Portable bitmaps from a source

A file arrives in pieces whose lengths the reader does not choose. A `Source` shows the
bytes that lie ready and is told how many of them are used up, or it is asked for bytes
outright and gives as many as it likes. The functions here read a bitmap from any
source without joining its pieces first: blanks and tokens byte by byte, a comment as far
as it lies ready, and the rows in as many bytes as the source gives at a time.
-/

namespace LcdCompositor.Netpbm

/-- What hands out the bytes of a file piece by piece. How long the pieces are is its own
choice, at every request anew, but only at the end is one empty. -/
class Source (σ : Type) where
  /-- All bytes to come. -/
  bytes : σ → List UInt8
  /-- The bytes that lie ready, and the source in which they do. -/
  fill : σ → List UInt8 × σ
  /-- Drops a number of the bytes that lie ready. -/
  consume : σ → Nat → σ
  /-- Takes bytes off the front, at most a given number. -/
  take : σ → Nat → List UInt8 × σ
  bytes_fill (s : σ) : bytes (fill s).2 = bytes s
  fill_front (s : σ) : ∃ rest, bytes s = (fill s).1 ++ rest
  fill_end (s : σ) : (fill s).1 = [] → bytes s = []
  bytes_consume (s : σ) (count : Nat) : count ≤ (fill s).1.length →
    bytes (consume (fill s).2 count) = (bytes s).drop count
  bytes_take (s : σ) (count : Nat) : bytes s = (take s count).1 ++ bytes (take s count).2
  length_take (s : σ) (count : Nat) : (take s count).1.length ≤ count
  take_end (s : σ) (count : Nat) : (take s count).1 = [] → count = 0 ∨ bytes s = []

namespace Source

variable {σ : Type} [Source σ]

/-- The next byte, which stays where it is. -/
def peek (s : σ) : Option UInt8 × σ := ((fill s).1.head?, (fill s).2)

@[simp] theorem bytes_peek (s : σ) : bytes (peek s).2 = bytes s := bytes_fill s

theorem peek_fst (s : σ) : (peek s).1 = (bytes s).head? := by
  obtain ⟨rest, front⟩ := fill_front s
  rw [peek, front]
  cases ready : (fill s).1 with
  | nil =>
    have atEnd := fill_end s ready
    rw [front, ready] at atEnd
    rw [List.nil_append] at atEnd ⊢
    rw [atEnd]
  | cons byte more => rfl

/-- A byte that has been looked at is used up. -/
theorem bytes_consume_peek {s : σ} {byte : UInt8} (found : (peek s).1 = some byte) :
    bytes s = byte :: bytes (consume (peek s).2 1) := by
  have ready : 1 ≤ (fill s).1.length := List.length_pos_of_mem (List.mem_of_head? found)
  obtain ⟨rest, front⟩ := List.head?_eq_some_iff.mp ((peek_fst s).symm.trans found)
  rw [peek, bytes_consume s 1 ready, front]
  rfl

/-- Drops the rest of a line and the newline that ends it. -/
def skipLine (s : σ) : σ :=
  if newline ∈ (fill s).1 then consume (fill s).2 ((fill s).1.idxOf newline + 1)
  else if _h : (fill s).1 = [] then (fill s).2
  else skipLine (consume (fill s).2 (fill s).1.length)
termination_by (bytes s).length
decreasing_by
  obtain ⟨rest, front⟩ := fill_front s
  have some := List.length_pos_iff.mpr _h
  rw [bytes_consume s _ Nat.le.refl, front, List.drop_left, List.length_append]
  omega

/-- A line that is not empty takes at least one byte. -/
theorem length_skipLine (s : σ) : (bytes (skipLine s)).length ≤ (bytes s).length - 1 := by
  fun_induction skipLine s with
  | case1 s ends =>
    rw [bytes_consume s _ (List.idxOf_lt_length_of_mem ends), List.length_drop]
    omega
  | case2 s _ nothing =>
    rw [bytes_fill, fill_end s nothing]
    exact Nat.zero_le _
  | case3 s _ _ ih =>
    rw [bytes_consume s _ Nat.le.refl, List.length_drop] at ih
    omega

/-- Drops blanks and comments. -/
def skipBlanks (s : σ) : σ :=
  match _h : (peek s).1 with
  | none => (peek s).2
  | some byte =>
    if byte == hash then skipBlanks (skipLine (peek s).2)
    else if isBlank byte then skipBlanks (consume (peek s).2 1)
    else (peek s).2
termination_by (bytes s).length
decreasing_by
  · have shorter := length_skipLine (peek s).2
    rw [bytes_peek, bytes_consume_peek _h] at shorter
    rw [bytes_consume_peek _h]
    exact Nat.lt_succ_of_le shorter
  · rw [bytes_consume_peek _h]
    exact Nat.lt_succ_self _

/-- Splits off the bytes in front of the next blank, comment or end. At most `room` of
them may come, all visible. -/
def splitToken (room : Nat) (s : σ) : Except Fault (List UInt8 × σ) :=
  match _h : (peek s).1 with
  | none => .ok ([], (peek s).2)
  | some byte =>
    if isBlank byte || byte == hash then .ok ([], (peek s).2)
    else
      match room with
      | 0 => .error (.format .malformedToken)
      | room + 1 =>
        if isGraphic byte then
          (splitToken room (consume (peek s).2 1)).map fun (token, left) => (byte :: token, left)
        else .error (.format .malformedToken)

/-- The next token of the header and the source behind it. -/
def readToken (s : σ) : Except Fault (String × σ) :=
  let s := skipBlanks s
  match (peek s).1 with
  | none => .error (.io .endsInHeader)
  | some _ =>
    (splitToken tokenLimit (peek s).2).map fun (token, left) => (asciiText token, left)

/-- Collects bytes behind those already there until the expected number is reached. -/
def gather (expected : Nat) (got : List UInt8) (s : σ) : Except Fault (List UInt8 × σ) :=
  if _h : expected ≤ got.length then .ok (got, s)
  else if _none : (take s (expected - got.length)).1 = [] then
    .error (.shortRead expected got.length)
  else
    gather expected (got ++ (take s (expected - got.length)).1)
      (take s (expected - got.length)).2
termination_by expected - got.length
decreasing_by
  have some := List.length_pos_iff.mpr _none
  rw [List.length_append]
  omega

/-- The packed rows, given the source behind the height. -/
def readRows (size : Size) (s : σ) : Except Fault Bitmap :=
  match (peek s).1 with
  | none => .error (.shortRead size.packedLength 0)
  | some separator =>
    if isBlank separator then do
      let (rows, s) ← gather size.packedLength [] (consume (peek s).2 1)
      if (take s 1).1.isEmpty then Bitmap.ofBytes size rows.toArray
      else throw .trailingData
    else .error (.format .missingSeparator)

end Source

/-- Reads a bitmap of the expected size from a source. -/
def readSource {σ : Type} [Source σ] (expected : Size) (s : σ) : Except Fault Bitmap := do
  let (magic, s) ← Source.readToken s
  if magic ≠ "P4" then throw (.format (.magic magic))
  let (token, s) ← Source.readToken s
  let width ← dimension .horizontal token
  let (token, s) ← Source.readToken s
  let height ← dimension .vertical token
  checkSize ⟨width, height⟩ expected
  Source.readRows expected s

/-- The pieces of a file that are still to come. -/
structure Stream where
  pieces : List (List UInt8)
deriving Repr

namespace Stream

/-- All bytes to come. -/
def bytes (s : Stream) : List UInt8 := s.pieces.flatten

/-- The stream without the empty pieces in front. -/
def settle (s : Stream) : Stream := ⟨s.pieces.dropWhile List.isEmpty⟩

/-- The first piece. -/
def front (s : Stream) : List UInt8 := s.pieces.headD []

/-- Drops bytes of the first piece. -/
def drop (s : Stream) (count : Nat) : Stream := ⟨s.pieces.modifyHead (List.drop count)⟩

@[simp] theorem bytes_settle (s : Stream) : s.settle.bytes = s.bytes := by
  obtain ⟨pieces⟩ := s
  rw [settle, bytes, bytes]
  induction pieces with
  | nil => rfl
  | cons piece pieces ih =>
    cases piece with
    | nil => simpa using ih
    | cons byte piece => rfl

theorem bytes_eq (s : Stream) (count : Nat) :
    s.bytes = s.front.take count ++ (s.drop count).bytes := by
  obtain ⟨pieces⟩ := s
  cases pieces with
  | nil => simp [front, drop, bytes]
  | cons piece pieces => simp [front, drop, bytes, ← List.append_assoc]

/-- A settled stream whose first piece is empty has come to its end. -/
theorem bytes_of_front (s : Stream) (nothing : s.settle.front = []) : s.bytes = [] := by
  obtain ⟨pieces⟩ := s
  rw [settle, front] at nothing
  rw [bytes]
  induction pieces with
  | nil => rfl
  | cons piece pieces ih =>
    cases piece with
    | nil => exact ih nothing
    | cons byte piece => cases nothing

/-- A stream shows the piece in front and hands over what it has of it. -/
instance : Source Stream where
  bytes := bytes
  fill s := (s.settle.front, s.settle)
  consume := drop
  take s count := (s.settle.front.take count, s.settle.drop count)
  bytes_fill := bytes_settle
  fill_front s := by
    refine ⟨(s.settle.drop s.settle.front.length).bytes, ?_⟩
    rw [← s.bytes_settle, s.settle.bytes_eq s.settle.front.length, List.take_length]
  fill_end := bytes_of_front
  bytes_consume s count ready := by
    have length : (s.settle.front.take count).length = count := List.length_take_of_le ready
    rw [← s.bytes_settle, s.settle.bytes_eq count]
    exact (List.drop_left' length).symm
  bytes_take s count := by rw [← s.bytes_settle, ← s.settle.bytes_eq count]
  length_take s count := List.length_take_le _ _
  take_end s count nothing :=
    (List.take_eq_nil_iff.mp nothing).imp id s.bytes_of_front

/-- Cuts bytes into pieces of a fixed length, the last one possibly shorter. -/
def ofBytes (pieceLength : Nat) (bytes : List UInt8) : Stream :=
  ⟨go bytes.length bytes⟩
where
  go : Nat → List UInt8 → List (List UInt8)
    | 0, rest => [rest]
    | fuel + 1, rest =>
      if pieceLength = 0 ∨ rest.length ≤ pieceLength then [rest]
      else rest.take pieceLength :: go fuel (rest.drop pieceLength)

end Stream

/-- Reads a bitmap of the expected size from a stream. -/
def readStream (expected : Size) (s : Stream) : Except Fault Bitmap := readSource expected s

end LcdCompositor.Netpbm
