import LcdCompositor.Proofs.Screen.Animation
import Mathlib.Algebra.Ring.Nat
import Mathlib.Order.Monotone.Basic

/-!
# Where an animation is after so many steps

A frame stays for one tick more than its count, so the frames cut a round of the animation into
stretches, in the order of the list. After any number of steps the animation stands where this
number, counted from the start of its round, falls: on the frame of that stretch, as many ticks
behind its beginning. There is one such place for every tick of a round, so the place can be
told from the counts alone, and the animation repeats itself round by round.
-/

namespace LcdCompositor.Screen

variable {counts : List UInt16} {count : UInt16} {i j n : Nat}

/-- Ticks for which the first `i` frames are shown. -/
def ticksBefore (counts : List UInt16) (i : Nat) : Nat :=
  ((counts.take i).map fun count => count.toNat + 1).sum

/-- Ticks for which all frames are shown. -/
def roundTicks (counts : List UInt16) : Nat :=
  (counts.map fun count => count.toNat + 1).sum

theorem ticksBefore_zero (counts : List UInt16) : ticksBefore counts 0 = 0 := rfl

theorem ticksBefore_length (counts : List UInt16) :
    ticksBefore counts counts.length = roundTicks counts := by
  unfold ticksBefore roundTicks
  rw [List.take_length]

/-- A frame is shown for one tick more than its count. -/
theorem ticksBefore_succ (here : counts[i]? = some count) :
    ticksBefore counts (i + 1) = ticksBefore counts i + (count.toNat + 1) := by
  unfold ticksBefore
  rw [List.take_add_one, here, Option.toList_some, List.map_append, List.sum_append]
  rfl

theorem ticksBefore_mono (counts : List UInt16) : Monotone (ticksBefore counts) := by
  apply monotone_nat_of_le_succ
  intro i
  cases here : counts[i]? with
  | some count =>
    rw [ticksBefore_succ here]
    exact Nat.le_add_right _ _
  | none =>
    unfold ticksBefore
    rw [List.take_add_one, here, Option.toList_none, List.append_nil]

theorem ticksBefore_le_roundTicks (inside : i ≤ counts.length) :
    ticksBefore counts i ≤ roundTicks counts := by
  rw [← ticksBefore_length]
  exact ticksBefore_mono counts inside

/-- Tick `n` of a round falls on frame `place.1`, as many ticks as `place.2` behind its
beginning. -/
def Falls (counts : List UInt16) (n : Nat) (place : Nat × Nat) : Prop :=
  ∃ count, counts[place.1]? = some count ∧ place.2 ≤ count.toNat ∧
    ticksBefore counts place.1 + place.2 = n

namespace Falls

variable {place other : Nat × Nat}

theorem inside (h : Falls counts n place) : place.1 < counts.length := by
  obtain ⟨count, here, -, -⟩ := h
  exact (List.getElem?_eq_some_iff.mp here).1

/-- The stretch of a frame ends where that of the next one begins. -/
theorem lt_ticksBefore (h : Falls counts n place) : n < ticksBefore counts (place.1 + 1) := by
  obtain ⟨count, here, short, rfl⟩ := h
  rw [ticksBefore_succ here]
  omega

theorem lt_roundTicks (h : Falls counts n place) : n < roundTicks counts :=
  Nat.lt_of_lt_of_le h.lt_ticksBefore (ticksBefore_le_roundTicks h.inside)

/-- The stretches of different frames do not overlap. -/
theorem not_lt (h : Falls counts n place) (h' : Falls counts n other) :
    ¬ place.1 < other.1 := by
  intro before
  have ends : n < ticksBefore counts (place.1 + 1) := h.lt_ticksBefore
  have order : ticksBefore counts (place.1 + 1) ≤ ticksBefore counts other.1 :=
    ticksBefore_mono counts before
  obtain ⟨-, -, -, sum⟩ := h'
  omega

theorem unique (h : Falls counts n place) (h' : Falls counts n other) : place = other := by
  have index : place.1 = other.1 :=
    Nat.le_antisymm (Nat.le_of_not_lt (h'.not_lt h)) (Nat.le_of_not_lt (h.not_lt h'))
  obtain ⟨-, -, -, sum⟩ := h
  obtain ⟨-, -, -, sum'⟩ := h'
  rw [index] at sum
  exact Prod.ext index (by omega)

/-- A frame is on show for the whole of its stretch and not outside it. -/
theorem index_iff (h : Falls counts n place) (here : counts[i]? = some count) :
    place.1 = i ↔ ticksBefore counts i ≤ n ∧ n < ticksBefore counts (i + 1) := by
  constructor
  · rintro rfl
    have ends := h.lt_ticksBefore
    obtain ⟨-, -, -, sum⟩ := h
    omega
  · rintro ⟨begun, still⟩
    rw [ticksBefore_succ here] at still
    have there : Falls counts n (i, n - ticksBefore counts i) := by
      refine ⟨count, here, ?_, ?_⟩
      · show n - ticksBefore counts i ≤ count.toNat
        omega
      · exact Nat.add_sub_of_le begun
    rw [h.unique there]

end Falls

/-- The tick behind the last one of a round is the first one of the next. -/
theorem succ_mod_cases (n m : Nat) (positive : 0 < m) :
    n % m + 1 < m ∧ (n + 1) % m = n % m + 1 ∨ n % m + 1 = m ∧ (n + 1) % m = 0 := by
  have below : n % m < m := Nat.mod_lt n positive
  rw [← Nat.mod_add_mod]
  rcases Nat.lt_or_eq_of_le below with more | last
  · exact .inl ⟨more, Nat.mod_eq_of_lt more⟩
  · refine .inr ⟨last, ?_⟩
    rw [show n % m + 1 = m from last, Nat.mod_self]

section Steps

variable {s t : Screen}

/-- One step goes to the place of the next tick: further into the stretch of the frame, to the
beginning of the next one, or from the end of the last one to the start. -/
theorem falls_advance (moved : s.advance = .ok t)
    (here : Falls s.counts (n % roundTicks s.counts) s.position) :
    Falls s.counts ((n + 1) % roundTicks s.counts) t.position := by
  have below : n % roundTicks s.counts < roundTicks s.counts := here.lt_roundTicks
  have next := succ_mod_cases n (roundTicks s.counts) (by omega)
  have inside : s.index + 1 ≤ s.counts.length := here.inside
  obtain ⟨count, found, short, sum⟩ := here
  obtain ⟨same, found', result⟩ := position_of_advance moved
  cases found.symm.trans found'
  change s.ticks ≤ count.toNat at short
  change ticksBefore s.counts s.index + s.ticks = n % roundTicks s.counts at sum
  have ends : ticksBefore s.counts (s.index + 1) =
      ticksBefore s.counts s.index + (count.toNat + 1) := ticksBefore_succ found
  rw [result]
  by_cases spent : count.toNat ≤ s.ticks
  · rw [if_pos spent]
    rcases Nat.lt_or_eq_of_le inside with more | last
    · -- There is a next frame, so the round is not over.
      have behind := ticksBefore_succ (List.getElem?_eq_getElem more)
      have total : ticksBefore s.counts (s.index + 1 + 1) ≤ roundTicks s.counts :=
        ticksBefore_le_roundTicks more
      rw [Nat.mod_eq_of_lt more]
      refine ⟨_, List.getElem?_eq_getElem more, Nat.zero_le _, ?_⟩
      show ticksBefore s.counts (s.index + 1) + 0 = _
      omega
    · have total := ticksBefore_length s.counts
      have first : 0 < s.counts.length := by omega
      rw [← last] at total
      rw [last, Nat.mod_self]
      refine ⟨_, List.getElem?_eq_getElem first, Nat.zero_le _, ?_⟩
      show ticksBefore s.counts 0 + 0 = _
      rw [ticksBefore_zero]
      omega
  · have total := ticksBefore_le_roundTicks inside
    rw [if_neg spent]
    refine ⟨count, found, Nat.succ_le_of_lt (Nat.lt_of_not_le spent), ?_⟩
    show ticksBefore s.counts s.index + (s.ticks + 1) = _
    omega

/-- Any number of steps goes to the place of as many ticks, and changes nothing else. -/
theorem falls_advances (frames : s.frames ≠ []) (start : s.position = (0, 0)) (k : Nat) :
    ∃ t, s.advances k = .ok t ∧ t = { s with index := t.index, ticks := t.ticks } ∧
      Falls s.counts (k % roundTicks s.counts) t.position := by
  induction k with
  | zero =>
    have first : 0 < s.counts.length := s.length_counts ▸ List.length_pos_iff.mpr frames
    refine ⟨s, rfl, rfl, ?_⟩
    rw [start, Nat.zero_mod]
    exact ⟨_, List.getElem?_eq_getElem first, Nat.zero_le _, rfl⟩
  | succ k ih =>
    obtain ⟨t, reached, rest, falls⟩ := ih
    have same : t.counts = s.counts := by
      rw [rest]
      rfl
    rw [← same] at falls ⊢
    have inside : t.index < t.frames.length := t.length_counts ▸ falls.inside
    obtain ⟨u, moved⟩ := exists_advance inside
    refine ⟨u, advances_succ reached moved, ?_, falls_advance moved falls⟩
    rw [advance_eq moved, rest]

/-- A whole round makes no difference. -/
theorem advances_add_roundTicks (frames : s.frames ≠ []) (start : s.position = (0, 0)) (k : Nat) :
    s.advances (k + roundTicks s.counts) = s.advances k := by
  obtain ⟨t, reached, rest, falls⟩ := falls_advances frames start k
  obtain ⟨u, later, rest', falls'⟩ := falls_advances frames start (k + roundTicks s.counts)
  rw [Nat.add_mod_right] at falls'
  obtain ⟨index, ticks⟩ := Prod.mk.inj (falls'.unique falls)
  rw [reached, later, rest, rest', index, ticks]

end Steps

/-- From the start of the first frame, any number of steps of the animation can be taken, and
they change nothing but its place. The place is the only one whose distance from the start of a
round, the frames before it being shown for one tick more than their counts, is the number of
steps counted from the start of its round. So the animation comes back to the same state after
every round, and each frame is on show for an unbroken stretch of the round, which is one tick
longer than its count and ends where that of the next frame begins. -/
theorem advances_course {s : Screen} (frames : s.frames ≠ []) (start : s.position = (0, 0))
    (k : Nat) :
    ∃ t, s.advances k = .ok t ∧ t = { s with index := t.index, ticks := t.ticks } ∧
      (∀ i n, t.position = (i, n) ↔ ∃ count, s.counts[i]? = some count ∧ n ≤ count.toNat ∧
        ticksBefore s.counts i + n = k % roundTicks s.counts) ∧
      s.advances (k + roundTicks s.counts) = .ok t ∧
      ∀ i count, s.counts[i]? = some count →
        ticksBefore s.counts (i + 1) = ticksBefore s.counts i + (count.toNat + 1) ∧
        ticksBefore s.counts (i + 1) ≤ roundTicks s.counts ∧
        (t.index = i ↔ ticksBefore s.counts i ≤ k % roundTicks s.counts ∧
          k % roundTicks s.counts < ticksBefore s.counts (i + 1)) := by
  obtain ⟨t, reached, rest, falls⟩ := falls_advances frames start k
  refine ⟨t, reached, rest, fun i n => ?place, ?again, fun i count here => ?stretch⟩
  case place =>
    constructor
    · intro same
      rwa [same] at falls
    · intro there
      exact falls.unique there
  case again =>
    rw [advances_add_roundTicks frames start]
    exact reached
  case stretch =>
    have inside : i + 1 ≤ s.counts.length := (List.getElem?_eq_some_iff.mp here).1
    exact ⟨ticksBefore_succ here, ticksBefore_le_roundTicks inside, falls.index_iff here⟩

/-- Two frames that stay for two ticks and for one. The round has three ticks, and the fifth
step ends, like the eighth, on the second frame. -/
theorem advances_course_two :
    let blank := new ⟨1, "demo", ""⟩ .normal
    let s := { blank with frames := [⟨Bitmap.blankFrame, 1⟩, ⟨Bitmap.blankFrame, 0⟩] }
    s.frames ≠ [] ∧ s.position = (0, 0) ∧ roundTicks s.counts = 3 ∧
      ∃ t, s.advances 5 = .ok t ∧ s.advances 8 = .ok t ∧ t.position = (1, 0) := by
  intro blank s
  have frames : s.frames ≠ [] := List.cons_ne_nil _ _
  have total : roundTicks s.counts = 3 := rfl
  obtain ⟨t, reached, -, place, again, -⟩ := advances_course frames rfl 5
  rw [total] at place again
  exact ⟨frames, rfl, total, t, reached, again, (place 1 0).mpr ⟨0, rfl, Nat.le_refl 0, rfl⟩⟩

end LcdCompositor.Screen
