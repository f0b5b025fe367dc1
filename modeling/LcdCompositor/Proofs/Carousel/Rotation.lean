import LcdCompositor.Proofs.Carousel.Run

/-!
# When a carousel rotates, and where to

A tick rotates exactly when the plugin on display is disabled, or has used up its
budget and is not locked. The rotation hands over to the next enabled plugin round the
list and fails only when there is none. So whatever keys and masks there have been, a
tick never leaves a disabled plugin on display while another one is enabled.
-/

namespace LcdCompositor.Carousel

variable {σ : Type} {c : Carousel σ}

section Rotates

variable (c : Carousel σ) (studio : Studio) (key : String) (mask : UInt64)

/-- What a tick decides is what a rotation of the unlocked carousel comes to. -/
def Rotates : Prop :=
  c.decided studio key mask =
    rotate { c.pressed studio key with locked := false } (c.countTick.handleKey studio key).2 mask

variable {c}

/-- A rotation that does not fail starts the count over and leaves the lock alone. -/
theorem rotate_of_done (after : Studio) (done : (c.rotate after mask).2.2 = none) :
    (c.rotate after mask).1.ticks = 0 ∧ (c.rotate after mask).1.locked = c.locked := by
  obtain ⟨plugins, _, result⟩ := seek_eq mask c 1 c.plugins.length
  unfold rotate at done ⊢
  rw [result] at done ⊢
  cases found : (List.range' 1 c.plugins.length).find?
      fun d => c.enabledAt mask (c.placeAfter d) with
  | none =>
    rw [found] at done
    cases done
  | some distance => exact ⟨rfl, rfl⟩

/-- Giving way in terms of the carousel before the tick. -/
theorem givesWay_pressed {p q : Plugin σ} (evolved : p.Evolves q) :
    (c.pressed studio key).GivesWay mask q ↔ p.enabledBy mask = false ∨
      (p.screen.tempo.budget.toNat ≤ min (c.ticks + 1) tickLimit ∧
        c.lockedAfter key = false) := by
  rw [GivesWay, ticks_pressed, locked_pressed, evolved.enabledBy, evolved.screen.tempo]

/-- A tick rotates exactly when the plugin on display gives way. -/
theorem rotates_iff_givesWay {q : Plugin σ} (here : (c.pressed studio key).active = some q)
    (ready : q.Ready) :
    c.Rotates studio key mask ↔ (c.pressed studio key).GivesWay mask q := by
  constructor
  · intro rotates
    have turn := turned here ready (c.countTick.handleKey studio key).2 mask
    rw [← decided_eq] at turn
    have start := rotate_of_done (c := { c.pressed studio key with locked := false }) mask
      (c.countTick.handleKey studio key).2
    rw [← rotates] at start
    generalize (c.decided studio key mask).1 = d at turn start
    generalize (c.decided studio key mask).2.2 = fault at turn start
    cases turn with
    | goesOn =>
      -- The tick has been counted, so the count cannot be zero.
      have counted : (c.pressed studio key).ticks = 0 := (start rfl).1
      rw [ticks_pressed, tickLimit] at counted
      omega
    | holds _ _ _ locked =>
      have unlocked : (c.pressed studio key).locked = false := (start rfl).2
      rw [locked] at unlocked
      cases unlocked
    | rotates found due =>
      cases found.symm.trans here
      exact due
    | fails nothing => exact .inl (disabled_of_none here nothing)
  · intro due
    rw [Rotates, decided_eq]
    exact turn_of_givesWay here due _

theorem rotates_iff {p : Plugin σ} (h : c.Sound) (found : c.active = some p) :
    c.Rotates studio key mask ↔ p.enabledBy mask = false ∨
      (p.screen.tempo.budget.toNat ≤ min (c.ticks + 1) tickLimit ∧
        c.lockedAfter key = false) := by
  obtain ⟨q, here, evolved⟩ := c.active_pressed studio key found
  have ready := evolved.ready (h.ready p (mem_of_active found))
  rw [rotates_iff_givesWay studio key mask here ready]
  exact givesWay_pressed studio key mask evolved

/-- Whoever gives way while a plugin is enabled hands over to the next one. -/
theorem landing_of_givesWay {q : Plugin σ} (here : (c.pressed studio key).active = some q)
    (due : (c.pressed studio key).GivesWay mask q) (enabled : c.hasEnabled mask = true) :
    ∃ distance r, c.NextAt mask distance ∧ (c.decided studio key mask).1.active = some r ∧
      r.screen.index = 0 ∧ r.screen.ticks = 0 ∧
      (c.tick studio key mask).1.dial = (c.placeAfter distance, 0, false) := by
  have evolved : c.Evolves { c.pressed studio key with locked := false } :=
    (c.evolves_pressed studio key).trans (.of_plugins_eq rfl)
  have same : (c.pressed studio key).current = c.current := c.current_pressed studio key
  obtain ⟨distance, next⟩ :=
    exists_nextAt (c := { c.pressed studio key with locked := false }) (inside_of_active here)
      ((evolved.hasEnabled mask).trans enabled)
  obtain ⟨plugins, r, _, landed, index, ticks, result, _⟩ :=
    rotate_of_next next (c.countTick.handleKey studio key).2
  have decided := congrArg Prod.fst (turn_of_givesWay here due (c.countTick.handleKey studio key).2)
  rw [← decided_eq, result] at decided
  refine ⟨distance, r, next.of_evolves evolved same, ?_, index, ticks, ?_⟩
  · rw [decided]
    exact landed
  · rw [dial_tick studio key mask (plugins_ne_nil_of_hasEnabled enabled), decided,
      ← evolved.placeAfter same]
    rfl

/-- A rotation that does not fail lands on the next enabled plugin. -/
theorem landing_of_rotates (h : c.Sound) (loaded : c.plugins ≠ [])
    (rotates : c.Rotates studio key mask) (done : (c.decided studio key mask).2.2 = none) :
    ∃ distance q, c.NextAt mask distance ∧ (c.decided studio key mask).1.active = some q ∧
      q.screen.index = 0 ∧ q.screen.ticks = 0 ∧
      (c.tick studio key mask).1.dial = (c.placeAfter distance, 0, false) := by
  have evolved := c.evolves_pressed studio key
  obtain ⟨p, found, ready⟩ := (h.pressed studio key).active (evolved.plugins_ne_nil loaded)
  have due := (rotates_iff_givesWay studio key mask found ready).mp rotates
  have enabled : c.hasEnabled mask = true := by
    by_contra nothing
    rw [decided_fault studio key mask h loaded, if_neg nothing] at done
    cases done
  exact landing_of_givesWay studio key mask found due enabled

/-- A tick in which the plugin on display stays counts, or starts over at the budget. -/
theorem dial_of_not_givesWay {p q : Plugin σ} (found : c.active = some p)
    (here : (c.pressed studio key).active = some q) (evolved : p.Evolves q)
    (stays : ¬ (c.pressed studio key).GivesWay mask q) :
    (c.tick studio key mask).1.dial =
      (c.current,
        if p.screen.tempo.budget.toNat ≤ min (c.ticks + 1) tickLimit then 0
        else min (c.ticks + 1) tickLimit,
        c.lockedAfter key) := by
  rw [dial_tick studio key mask (loaded_of_active found), decided_eq,
    dial_turn_of_stays here stays, current_pressed, ticks_pressed, locked_pressed,
    evolved.screen.tempo]

/-- A tick that does not rotate counts, or starts over at the budget. -/
theorem dial_of_stays {p : Plugin σ} (h : c.Sound) (found : c.active = some p)
    (stays : ¬ c.Rotates studio key mask) :
    (c.tick studio key mask).1.dial =
      (c.current,
        if p.screen.tempo.budget.toNat ≤ min (c.ticks + 1) tickLimit then 0
        else min (c.ticks + 1) tickLimit,
        c.lockedAfter key) := by
  obtain ⟨q, here, evolved⟩ := c.active_pressed studio key found
  have ready := evolved.ready (h.ready p (mem_of_active found))
  rw [rotates_iff_givesWay studio key mask here ready] at stays
  exact dial_of_not_givesWay studio key mask found here evolved stays

/-- Where nothing is enabled the tick ends where it is, unlocked, with all locks forgotten. -/
theorem tick_of_none (h : c.Sound) (loaded : c.plugins ≠ []) (nothing : c.hasEnabled mask = false) :
    (c.tick studio key mask).1.current = c.current ∧
      (c.tick studio key mask).1.locked = false ∧
      ∀ p ∈ (c.tick studio key mask).1.plugins, p.screen.everLocked = false := by
  have failed := decided_fault studio key mask h loaded
  rw [nothing, if_neg Bool.false_ne_true] at failed
  rw [current_tick studio key mask loaded, locked_tick studio key mask loaded, plugins_tick,
    ← c.current_pressed studio key]
  have turn := decided_turned studio key mask h loaded
  rcases composed studio key mask h loaded with ⟨fault, _, same, _⟩ | ⟨done, _⟩
  · rw [same]
    rw [failed] at turn
    generalize (c.decided studio key mask).1 = d at turn ⊢
    cases turn with
    | fails _ _ forgotten => exact ⟨rfl, rfl, forgotten⟩
  · rw [failed] at done
    cases done

/-- A tick leaves an enabled plugin on display, if there is one. -/
theorem enabledAt_tick (h : c.Sound) (enabled : c.hasEnabled mask = true) :
    (c.tick studio key mask).1.enabledAt mask (c.tick studio key mask).1.current = true := by
  have loaded := plugins_ne_nil_of_hasEnabled enabled
  have turn := decided_turned studio key mask h loaded
  rw [decided_done studio key mask h enabled] at turn
  have shown := turn.enabled
  rw [(c.evolves_pressed studio key).enabledAt] at shown
  rwa [(evolves_tick studio key mask h).enabledAt, current_tick studio key mask loaded]

end Rotates

/-- The id on display shares a bit with a mask if and only if the mask enables the place. -/
theorem activeId_iff {mask : UInt64} :
    c.activeId &&& mask ≠ 0 ↔ c.enabledAt mask c.current = true := by
  rw [activeId, enabledAt, active]
  cases c.plugins[c.current]? with
  | none => simp
  | some p => exact bne_iff_ne.symm

end LcdCompositor.Carousel
