import LcdCompositor.Netpbm.Chunked
import LcdCompositor.Proofs.Netpbm.Grammar

/-!
# Pieces do not show

However a source cuts its bytes into pieces, the bitmap that is read from it, or the
fault, is the one of the bytes as a whole. Every function that reads from a source is
compared with the one that reads from a list: it has the same outcome, and the bytes
left in the source are the list that is left.
-/

namespace LcdCompositor.Netpbm

namespace Source

variable {α σ : Type} [Source σ] {s : σ}

/-- An outcome with the bytes that are left in place of the source that has them. -/
def joined (outcome : Except Fault (α × σ)) : Except Fault (α × List UInt8) :=
  outcome.map (Prod.map id bytes)

/-- Two readers that agree up to the source go on alike if what follows them does. -/
theorem bind_joined {β : Type} {outcome : Except Fault (α × σ)}
    {whole : Except Fault (α × List UInt8)} {next : α × σ → Except Fault β}
    {nextWhole : α × List UInt8 → Except Fault β} (same : joined outcome = whole)
    (later : ∀ value s, next (value, s) = nextWhole (value, bytes s)) :
    outcome >>= next = whole >>= nextWhole := by
  subst same
  cases outcome with
  | error fault => rfl
  | ok found => exact later found.1 found.2

theorem joined_eq_ok_iff {outcome : Except Fault (α × σ)} {value : α} {left : List UInt8} :
    joined outcome = .ok (value, left) ↔
      ∃ after, outcome = .ok (value, after) ∧ bytes after = left := by
  cases outcome with
  | error fault => simp [joined, Except.map]
  | ok found => simp [joined, Except.map, Prod.ext_iff, and_assoc, exists_and_left]

theorem joined_eq_error_iff {outcome : Except Fault (α × σ)} {fault : Fault} :
    joined outcome = .error fault ↔ outcome = .error fault := by
  cases outcome <;> simp [joined, Except.map]

theorem bytes_of_peek_none (none : (peek s).1 = none) : bytes s = [] :=
  List.head?_eq_none_iff.mp ((peek_fst s).symm.trans none)

section Filler

/-- A comment stays open where no newline comes. -/
theorem skipBlanks_open {text rest : List UInt8} (line : newline ∉ text) :
    Netpbm.skipBlanks true (text ++ rest) = Netpbm.skipBlanks true rest := by
  induction text with
  | nil => rfl
  | cons byte text ih =>
    obtain ⟨inside, line⟩ := List.ne_and_not_mem_of_not_mem_cons line
    rw [List.cons_append, Netpbm.skipBlanks, if_pos rfl, bne_iff_ne.mpr (Ne.symm inside)]
    exact ih line

/-- Behind the line no comment is open. The piece that lies ready may end before the
line does, so the induction is on the pieces. -/
theorem skipBlanks_skipLine (s : σ) :
    Netpbm.skipBlanks false (bytes (skipLine s)) = Netpbm.skipBlanks true (bytes s) := by
  fun_induction skipLine s with
  | case1 s ends =>
    obtain ⟨rest, front⟩ := fill_front s
    obtain ⟨text, more, ready, line⟩ := List.eq_append_cons_of_mem ends
    have place : (fill s).1.idxOf newline = text.length := by
      rw [ready, List.idxOf_append_of_notMem line, List.idxOf_cons_self, Nat.add_zero]
    rw [bytes_consume s _ (List.idxOf_lt_length_of_mem ends), place, front, ready,
      List.append_assoc, List.cons_append, skipBlanks_comment line]
    simp
  | case2 s _ nothing => rw [bytes_fill, fill_end s nothing]; rfl
  | case3 s line _ ih =>
    obtain ⟨rest, front⟩ := fill_front s
    rw [ih, bytes_consume s _ Nat.le.refl, front, List.drop_left, skipBlanks_open line]

theorem bytes_skipBlanks (s : σ) :
    bytes (skipBlanks s) = Netpbm.skipBlanks false (bytes s) := by
  fun_induction skipBlanks s with
  | case1 s none => rw [bytes_peek, bytes_of_peek_none none]; rfl
  | case2 s byte found isHash ih =>
    rw [ih, skipBlanks_skipLine, bytes_peek, bytes_consume_peek found, beq_iff_eq.mp isHash]
    rfl
  | case3 s byte found notHash white ih =>
    rw [ih, bytes_consume_peek found, Netpbm.skipBlanks.eq_2, if_neg Bool.false_ne_true,
      if_neg notHash, if_pos white]
  | case4 s byte found notHash notBlank =>
    rw [bytes_peek, bytes_consume_peek found, Netpbm.skipBlanks.eq_2, if_neg Bool.false_ne_true,
      if_neg notHash, if_neg notBlank]

end Filler

section Token

/-- What is done to the value alone is done before or after. -/
theorem joined_map {β : Type} (outcome : Except Fault (α × σ)) (f : α → β) :
    joined (outcome.map fun (value, left) => (f value, left)) =
      (joined outcome).map fun (value, left) => (f value, left) := by
  cases outcome <;> rfl

theorem joined_splitToken (room : Nat) (s : σ) :
    joined (splitToken room s) = Netpbm.splitToken room (bytes s) := by
  fun_induction splitToken room s with
  | case1 room s none =>
    have atEnd : bytes (peek s).2 = [] := (bytes_peek s).trans (bytes_of_peek_none none)
    rw [bytes_of_peek_none none, Netpbm.splitToken, ← atEnd]
    rfl
  | case2 room s byte found ends =>
    have front := bytes_consume_peek found
    rw [front, Netpbm.splitToken.eq_def]
    dsimp only
    rw [if_pos ends, ← front, ← bytes_peek s]
    rfl
  | case3 s byte found goesOn =>
    rw [bytes_consume_peek found, Netpbm.splitToken.eq_def]
    dsimp only
    rw [if_neg goesOn]
    rfl
  | case4 s byte found goesOn room graphic ih =>
    rw [bytes_consume_peek found, Netpbm.splitToken.eq_def]
    dsimp only
    rw [if_neg goesOn, if_pos graphic, joined_map, ih]
  | case5 s byte found goesOn room unseen =>
    rw [bytes_consume_peek found, Netpbm.splitToken.eq_def]
    dsimp only
    rw [if_neg goesOn, if_neg unseen]
    rfl

theorem joined_readToken (s : σ) : joined (readToken s) = Netpbm.readToken (bytes s) := by
  rw [readToken, Netpbm.readToken, ← bytes_skipBlanks]
  dsimp only
  cases found : (peek (skipBlanks s)).1 with
  | none =>
    rw [bytes_of_peek_none found]
    rfl
  | some byte =>
    have front := bytes_consume_peek found
    rw [front]
    dsimp only
    rw [joined_map, joined_splitToken, bytes_peek, front]

end Token

section Rows

/-- What is gathered is what was there and the next bytes, as many as are missing. -/
theorem joined_gather (expected : Nat) (got : List UInt8) (s : σ) :
    joined (gather expected got s) =
      if expected ≤ got.length + (bytes s).length then
        .ok (got ++ (bytes s).take (expected - got.length),
          (bytes s).drop (expected - got.length))
      else .error (.shortRead expected (got.length + (bytes s).length)) := by
  fun_induction gather expected got s with
  | case1 got s enough =>
    rw [if_pos (Nat.le_add_right_of_le enough), Nat.sub_eq_zero_of_le enough, List.take_zero,
      List.append_nil]
    rfl
  | case2 got s missing nothing =>
    have wanted := Nat.sub_ne_zero_of_lt (Nat.lt_of_not_le missing)
    have atEnd := (take_end s _ nothing).resolve_left wanted
    rw [atEnd, if_neg (by simpa using missing)]
    rfl
  | case3 got s missing some ih =>
    have front := bytes_take s (expected - got.length)
    have short := length_take s (expected - got.length)
    rw [ih]
    generalize (take s (expected - got.length)).1 = piece at front short
    generalize bytes (take s (expected - got.length)).2 = left at front
    rw [front, List.take_append, List.drop_append, List.take_of_length_le short,
      List.drop_of_length_le short, List.length_append, List.length_append, Nat.sub_add_eq,
      ← Nat.add_assoc, List.append_assoc, List.nil_append]

/-- A source has come to its end if it gives nothing where it is asked for one byte. -/
theorem isEmpty_take_one (s : σ) : (take s 1).1.isEmpty = (bytes s).isEmpty := by
  have front := bytes_take s 1
  cases given : (take s 1).1 with
  | nil => rw [(take_end s 1 given).resolve_left Nat.one_ne_zero]
  | cons byte more =>
    rw [front, given]
    rfl

/-- The rows are gathered, and then the end is probed for. Against the rows as a list
that is a comparison of lengths. -/
theorem readRows_eq (size : Size) (s : σ) : readRows size s = Netpbm.readRows size (bytes s) := by
  rw [readRows]
  cases found : (peek s).1 with
  | none =>
    rw [bytes_of_peek_none found]
    rfl
  | some separator =>
    rw [bytes_consume_peek found, Netpbm.readRows]
    dsimp only
    generalize consume (peek s).2 1 = left
    split
    next blank =>
      have gathered := joined_gather size.packedLength [] left
      rw [List.length_nil, Nat.zero_add, Nat.sub_zero, List.nil_append] at gathered
      by_cases enough : size.packedLength ≤ (bytes left).length
      · rw [if_pos enough] at gathered
        obtain ⟨after, gathered, rest⟩ := joined_eq_ok_iff.mp gathered
        rw [gathered, if_neg (Nat.not_lt.mpr enough)]
        dsimp only [bind, Except.bind]
        rw [isEmpty_take_one, rest]
        by_cases more : size.packedLength < (bytes left).length
        · have some : ((bytes left).drop size.packedLength).isEmpty = false := by
            simpa using more
          rw [if_pos more, some]
          rfl
        · have none : ((bytes left).drop size.packedLength).isEmpty = true := by
            simpa using more
          rw [if_neg more, none, if_pos rfl, List.take_of_length_le (Nat.le_of_not_lt more)]
      · rw [if_neg enough] at gathered
        rw [joined_eq_error_iff.mp gathered, if_pos (Nat.lt_of_not_le enough)]
        rfl
    · rfl

end Rows

end Source

variable {σ : Type} [Source σ]

theorem readSource_eq (expected : Size) (s : σ) :
    readSource expected s = read expected (Source.bytes s) := by
  rw [readSource, read]
  refine Source.bind_joined (Source.joined_readToken s) fun magic s => ?_
  dsimp only
  split
  · rfl
  · refine Source.bind_joined (Source.joined_readToken s) fun width s => ?_
    dsimp only
    refine bind_congr fun width => ?_
    refine Source.bind_joined (Source.joined_readToken s) fun height s => ?_
    dsimp only
    refine bind_congr fun height => ?_
    refine bind_congr fun _ => ?_
    exact Source.readRows_eq expected s

/-- A bitmap is read from a source as from its bytes, which may as well come in one
piece. -/
theorem readSource_whole (expected : Size) (s : σ) :
    readSource expected s = read expected (Source.bytes s) ∧
      readSource expected s = readStream expected ⟨[Source.bytes s]⟩ := by
  have onePiece : Source.bytes (Stream.mk [Source.bytes s]) = Source.bytes s :=
    List.append_nil _
  refine ⟨readSource_eq expected s, ?_⟩
  rw [readStream, readSource_eq, readSource_eq, onePiece]

end LcdCompositor.Netpbm
