import LcdCompositor.Proofs.Carousel.Evolution

/-!
# The search for the next plugin

The search looks at one place after the other, round the list, and ends at the first
plugin that the mask enables. It passes no enabled plugin over, and it comes back to
the plugin it started from only when there is no other.
-/

namespace LcdCompositor.Carousel

variable {σ : Type} {c : Carousel σ} {mask : UInt64}

/-- The place so many places behind the plugin on display, counted round the list. -/
def placeAfter (c : Carousel σ) (distance : Nat) : Nat :=
  (c.current + distance) % c.plugins.length

/-- The first enabled plugin behind the one on display is so many places away. -/
structure NextAt (c : Carousel σ) (mask : UInt64) (distance : Nat) : Prop where
  pos : 1 ≤ distance
  round : distance ≤ c.plugins.length
  enabled : c.enabledAt mask (c.placeAfter distance) = true
  first : ∀ d, 1 ≤ d → d < distance → c.enabledAt mask (c.placeAfter d) = false

theorem Evolves.placeAfter {d : Carousel σ} (h : c.Evolves d) (same : d.current = c.current) :
    d.placeAfter = c.placeAfter := by
  funext distance
  rw [Carousel.placeAfter, Carousel.placeAfter, h.length, same]

/-- The search for the next plugin depends on nothing that evolves. -/
theorem NextAt.of_evolves {d : Carousel σ} {distance : Nat} (next : d.NextAt mask distance)
    (h : c.Evolves d) (same : d.current = c.current) : c.NextAt mask distance := by
  obtain ⟨pos, round, enabled, first⟩ := next
  rw [h.length] at round
  simp only [h.enabledAt, h.placeAfter same] at enabled first
  exact ⟨pos, round, enabled, first⟩

theorem enabledAt_lt {i : Nat} (h : c.enabledAt mask i = true) : i < c.plugins.length := by
  obtain ⟨p, found, _⟩ := (Option.any_eq_true ..).mp h
  exact (List.getElem?_eq_some_iff.mp found).1

/-- Every place is met in one round. -/
theorem exists_placeAfter {i : Nat} (inside : c.current < c.plugins.length)
    (h : i < c.plugins.length) : ∃ d, 1 ≤ d ∧ d ≤ c.plugins.length ∧ c.placeAfter d = i := by
  unfold placeAfter
  by_cases behind : c.current < i
  · refine ⟨i - c.current, by omega, by omega, ?_⟩
    rw [Nat.add_sub_cancel' (Nat.le_of_lt behind), Nat.mod_eq_of_lt h]
  · refine ⟨i + c.plugins.length - c.current, by omega, by omega, ?_⟩
    rw [Nat.add_sub_cancel' (by omega), Nat.add_mod_right, Nat.mod_eq_of_lt h]

/-- The next plugin is the one on display only if no other is enabled. -/
theorem NextAt.only {distance : Nat} (h : c.NextAt mask distance)
    (inside : c.current < c.plugins.length) (self : c.placeAfter distance = c.current) :
    ∀ i, c.enabledAt mask i = true → i = c.current := by
  intro i enabled
  obtain ⟨d, pos, round, rfl⟩ := exists_placeAfter inside (enabledAt_lt enabled)
  -- A distance short of a whole round cannot lead back.
  have whole : distance = c.plugins.length := by
    have within := h.round
    have positive := h.pos
    by_contra short
    rw [placeAfter] at self
    by_cases straight : c.current + distance < c.plugins.length
    · rw [Nat.mod_eq_of_lt straight] at self
      omega
    · rw [Nat.mod_eq_sub_mod (by omega), Nat.mod_eq_of_lt (by omega)] at self
      omega
  by_cases last : d = c.plugins.length
  · rw [last, ← whole, self]
  · rw [h.first d pos (by omega)] at enabled
    cases enabled

/-- What looking at a place leaves behind. -/
def forget (c : Carousel σ) (i : Nat) : Carousel σ :=
  { c with plugins := c.plugins.modify i (·.onScreen Screen.clearLockHistory) }

theorem evolves_forget (c : Carousel σ) (i : Nat) : c.Evolves (c.forget i) :=
  evolves_modify fun p _ => p.onScreen_evolves (.clearLockHistory p.screen)

theorem placeAfter_forget (c : Carousel σ) (i : Nat) : (c.forget i).placeAfter = c.placeAfter :=
  (evolves_forget c i).placeAfter rfl

/-- One place of the search. -/
theorem seek_succ (mask : UInt64) (c : Carousel σ) (distance left : Nat) :
    seek mask c distance (left + 1) =
      if c.enabledAt mask (c.placeAfter distance) then
        (c.forget (c.placeAfter distance), some (c.placeAfter distance))
      else seek mask (c.forget (c.placeAfter distance)) (distance + 1) left := by
  rw [← (evolves_forget c (c.placeAfter distance)).enabledAt]
  rfl

/-- The search changes plugins only, and finds what a look-up along the distances finds. -/
theorem seek_eq (mask : UInt64) (c : Carousel σ) (distance left : Nat) :
    ∃ plugins, c.Evolves { c with plugins } ∧
      seek mask c distance left = ({ c with plugins },
        ((List.range' distance left).find? fun d => c.enabledAt mask (c.placeAfter d)).map
          c.placeAfter) := by
  induction left generalizing c distance with
  | zero => exact ⟨c.plugins, .refl c, rfl⟩
  | succ left ih =>
    have forgotten := evolves_forget c (c.placeAfter distance)
    rw [List.range'_succ, List.find?_cons, seek_succ]
    cases here : c.enabledAt mask (c.placeAfter distance) with
    | true => exact ⟨_, forgotten, rfl⟩
    | false =>
      obtain ⟨plugins, evolved, result⟩ := ih (c.forget (c.placeAfter distance)) (distance + 1)
      simp only [forgotten.enabledAt, placeAfter_forget] at result
      exact ⟨plugins, forgotten.trans evolved, result⟩

/-- A search that finds nothing leaves no lock history in the places it has looked at,
and brings none back. -/
theorem everLocked_of_seek {distance left : Nat} {d : Carousel σ}
    (h : seek mask c distance left = (d, none)) {i : Nat}
    (looked : (∀ p, c.plugins[i]? = some p → p.screen.everLocked = false) ∨
      ∃ k, distance ≤ k ∧ k < distance + left ∧ c.placeAfter k = i) :
    ∀ p, d.plugins[i]? = some p → p.screen.everLocked = false := by
  induction left generalizing c distance with
  | zero =>
    cases h
    rcases looked with clear | ⟨k, low, high, _⟩
    · exact clear
    · omega
  | succ left ih =>
    rw [seek_succ] at h
    split at h
    · cases h
    · apply ih h
      rw [placeAfter_forget]
      by_cases here : c.placeAfter distance = i
      · left
        intro p found
        rw [forget, List.getElem?_modify, here] at found
        obtain ⟨q, _, rfl⟩ := Option.map_eq_some_iff.mp found
        rw [if_pos rfl]
        rfl
      · rcases looked with clear | ⟨k, low, high, place⟩
        · left
          intro p found
          rw [forget, List.getElem?_modify] at found
          obtain ⟨q, old, rfl⟩ := Option.map_eq_some_iff.mp found
          rw [if_neg here]
          exact clear q old
        · have later : k ≠ distance := fun same => here (same ▸ place)
          exact .inr ⟨k, by omega, by omega, place⟩

/-- An enabled plugin is always found in one round. -/
theorem exists_nextAt (inside : c.current < c.plugins.length) (h : c.hasEnabled mask = true) :
    ∃ distance, c.NextAt mask distance := by
  obtain ⟨i, enabled⟩ := (hasEnabled_iff c mask).mp h
  obtain ⟨d, pos, round, rfl⟩ := exists_placeAfter inside (enabledAt_lt enabled)
  have found : ((List.range' 1 c.plugins.length).find?
      fun d => c.enabledAt mask (c.placeAfter d)).isSome := by
    rw [List.find?_isSome]
    exact ⟨d, List.mem_range'_1.mpr ⟨pos, by omega⟩, enabled⟩
  obtain ⟨distance, least⟩ := Option.isSome_iff_exists.mp found
  obtain ⟨enabled, member, first⟩ := List.find?_range'_eq_some.mp least
  have range := List.mem_range'_1.mp member
  refine ⟨distance, range.1, by omega, enabled, ?_⟩
  intro k low high
  simpa using first k low high

theorem NextAt.find {distance : Nat} (h : c.NextAt mask distance) :
    (List.range' 1 c.plugins.length).find? (fun d => c.enabledAt mask (c.placeAfter d)) =
      some distance := by
  have range := h.round
  refine List.find?_range'_eq_some.mpr ⟨h.enabled, List.mem_range'_1.mpr ⟨h.pos, by omega⟩, ?_⟩
  intro k low high
  simpa using h.first k low high

/-- A rotation lands on the next enabled plugin, at the start of its animation. -/
theorem rotate_of_next {distance : Nat} (h : c.NextAt mask distance) (studio : Studio) :
    ∃ plugins q, c.Evolves { c with plugins } ∧ plugins[c.placeAfter distance]? = some q ∧
      q.screen.index = 0 ∧ q.screen.ticks = 0 ∧
      (c.rotate studio mask).1 =
        { c with plugins, current := c.placeAfter distance, ticks := 0 } ∧
      (c.rotate studio mask).2.2 = none := by
  obtain ⟨plugins, evolved, result⟩ := seek_eq mask c 1 c.plugins.length
  rw [h.find, Option.map_some] at result
  obtain ⟨p, found, _⟩ := (Option.any_eq_true ..).mp h.enabled
  obtain ⟨q, landed, _⟩ := evolved.at_place found
  rw [rotate, result]
  dsimp only at landed ⊢
  have reset := evolves_modify (c := { c with plugins }) (i := c.placeAfter distance)
    fun p _ => p.onScreen_evolves (.resetAnimation p.screen)
  refine ⟨_, q.onScreen Screen.resetAnimation, evolved.trans reset, ?_, rfl, rfl, rfl, rfl⟩
  rw [List.getElem?_modify, landed]
  exact congrArg some (if_pos rfl)

/-- Without an enabled plugin a rotation fails where it is, and every plugin has
forgotten that it was locked. -/
theorem rotate_of_none (inside : c.current < c.plugins.length) (h : c.hasEnabled mask = false)
    (studio : Studio) :
    ∃ plugins, c.Evolves { c with plugins } ∧
      (∀ p ∈ plugins, p.screen.everLocked = false) ∧
      c.rotate studio mask = ({ c with plugins }, studio, some (.allDisabled mask)) := by
  obtain ⟨plugins, evolved, result⟩ := seek_eq mask c 1 c.plugins.length
  have nothing : ((List.range' 1 c.plugins.length).find?
      fun d => c.enabledAt mask (c.placeAfter d)) = none := by
    rw [List.find?_eq_none]
    intro d _ enabled
    rw [hasEnabled_of_enabledAt enabled] at h
    cases h
  rw [nothing, Option.map_none] at result
  refine ⟨plugins, evolved, ?_, ?_⟩
  · intro p member
    obtain ⟨i, found⟩ := List.mem_iff_getElem?.mp member
    have room : i < c.plugins.length := by
      have := (List.getElem?_eq_some_iff.mp found).1
      rwa [evolved.length] at this
    obtain ⟨d, pos, round, place⟩ := exists_placeAfter inside room
    exact everLocked_of_seek result (.inr ⟨d, pos, by omega, place⟩) p found
  · rw [rotate, result]

end LcdCompositor.Carousel
