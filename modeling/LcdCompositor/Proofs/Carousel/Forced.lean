import LcdCompositor.Proofs.Carousel.Rotation

/-!
# Forced rotations

To force a rotation the carousel is unlocked and its count is set to the budget of the
plugin on display. The next tick counts on from there, and as the count stops at 65535,
which no budget exceeds, it finds the budget used up. So a forced rotation takes place
under every budget, and it lands where any other rotation would.

One key stands against it. The request is no more than an open lock and a count, and the
lock key closes the lock before the count is looked at: an enabled plugin is then held,
and the count that carried the request starts over. All of this is settled before
anything is redrawn, so nothing is asked of the plugins.
-/

namespace LcdCompositor.Carousel

variable {σ : Type} {c d : Carousel σ}

section Inside

variable {studio : Studio} {key : String} {mask : UInt64}

/-- The plugin on display is on the list, if there are any. -/
def Inside (c : Carousel σ) : Prop := c.plugins ≠ [] → c.current < c.plugins.length

theorem Inside.of_length (h : c.Inside) (length : d.plugins.length = c.plugins.length)
    (same : d.current = c.current) : d.Inside := by
  intro loaded
  rw [length, same]
  exact h (List.ne_nil_of_length_pos (length ▸ List.length_pos_iff.mpr loaded))

theorem length_onActive (c : Carousel σ) (f : Plugin σ → Plugin σ) :
    (c.onActive f).plugins.length = c.plugins.length := List.length_modify ..

theorem Inside.advance (h : c.Inside) : c.advance.1.Inside := by
  rw [Carousel.advance]
  split
  · exact h
  · split
    · exact h
    · exact h.of_length (c.length_onActive _) rfl

theorem Inside.rotate (h : c.Inside) : (c.rotate studio mask).1.Inside := by
  obtain ⟨plugins, evolved, result⟩ := seek_eq mask c 1 c.plugins.length
  rw [Carousel.rotate, result]
  cases (List.range' 1 c.plugins.length).find? fun d => c.enabledAt mask (c.placeAfter d) with
  | none => exact h.of_length evolved.length rfl
  | some distance =>
    intro loaded
    have length : (plugins.modify (c.placeAfter distance)
        (·.onScreen Screen.resetAnimation)).length = c.plugins.length :=
      (List.length_modify ..).trans evolved.length
    have positive : 0 < c.plugins.length := length ▸ List.length_pos_iff.mpr loaded
    exact length ▸ Nat.mod_lt _ positive

theorem Inside.turn (h : c.Inside) : (c.turn studio mask).1.Inside := by
  rw [Carousel.turn]
  split
  · exact h
  · split
    · exact Inside.rotate h
    · split
      · split
        · exact Inside.advance h
        · exact Inside.rotate h
      · exact h.advance

theorem Inside.redraw (h : c.Inside) : (c.redraw studio).1.Inside := by
  have encoded {d : Carousel σ} (h : d.Inside) : d.encode.1.Inside := by
    rw [encode]
    split
    · exact h
    · split
      · exact h
      · split <;> exact h
  rw [Carousel.redraw]
  split
  · exact h
  · split
    · exact h.of_length (c.length_onActive _) rfl
    · exact encoded (h.of_length (c.length_onActive _) rfl)

theorem Inside.tick (h : c.Inside) : (c.tick studio key mask).1.Inside := by
  have composed : (c.compose studio key mask).1.Inside := by
    by_cases loaded : c.plugins = []
    · rw [compose_of_empty studio key mask loaded]
      exact h
    · have pressed : (c.pressed studio key).Inside :=
        h.of_length (c.evolves_pressed studio key).length (c.current_pressed studio key)
      have decided : (c.decided studio key mask).1.Inside := by
        rw [decided_eq]
        exact pressed.turn
      rw [compose_eq loaded]
      split
      next result =>
        rw [result] at decided
        exact decided
      next result =>
        rw [result] at decided
        exact Inside.redraw decided
  rw [tick_eq]
  exact composed

/-- Whatever plugins a run is over, one of them is on display. -/
theorem Reachable.inside {plugins : List (Plugin σ)} (h : Reachable plugins c) : c.Inside := by
  induction h with
  | start setting studio => exact List.length_pos_iff.mpr
  | @move c m _ ih =>
    cases m with
    | tick studio key mask => exact ih.tick
    | forceNext =>
      obtain ⟨ticks, forced⟩ := c.forceNext_eq
      change c.forceNext.Inside
      rw [forced]
      exact ih

end Inside

section Forced

variable {p q : Plugin σ} {studio : Studio} {key : String} {mask : UInt64}

theorem forceNext_of_active (found : c.active = some p) :
    c.forceNext = { c with ticks := p.screen.tempo.budget.toNat, locked := false } := by
  rw [forceNext, found]

theorem evolves_forceNext (c : Carousel σ) : c.Evolves c.forceNext := by
  obtain ⟨ticks, forced⟩ := c.forceNext_eq
  exact .of_plugins_eq ((congrArg Carousel.plugins forced).trans rfl)

theorem current_forceNext (c : Carousel σ) : c.forceNext.current = c.current := by
  obtain ⟨ticks, forced⟩ := c.forceNext_eq
  exact (congrArg Carousel.current forced).trans rfl

/-- A forced rotation opens the lock, so only the lock key has it closed. -/
theorem lockedAfter_forceNext (c : Carousel σ) (key : String) :
    c.forceNext.lockedAfter key = decide (key = Panel.lockKey) := by
  obtain ⟨ticks, forced⟩ := c.forceNext_eq
  rw [lockedAfter, forced]
  by_cases lock : key = Panel.lockKey <;> simp [lock]

/-- The count that is set is at the budget in the next tick, also where it cannot grow. -/
theorem spent_forceNext (found : c.active = some p) :
    p.screen.tempo.budget.toNat ≤ min (c.forceNext.ticks + 1) tickLimit := by
  have budget : p.screen.tempo.budget.toNat ≤ tickLimit :=
    Nat.le_of_lt_succ p.screen.tempo.budget.toNat_lt
  rw [forceNext_of_active found]
  exact Nat.le_min.mpr ⟨Nat.le_succ _, budget⟩

/-- Once forced, a plugin gives way unless it is enabled and gets locked. -/
theorem givesWay_forceNext (found : c.active = some p) (evolved : p.Evolves q) :
    (c.forceNext.pressed studio key).GivesWay mask q ↔
      key ≠ Panel.lockKey ∨ p.enabledBy mask = false := by
  rw [givesWay_pressed studio key mask evolved, lockedAfter_forceNext, decide_eq_false_iff_not,
    or_comm]
  exact or_congr_left (and_iff_right (spent_forceNext found))

end Forced

/-- A forced rotation takes place in the next tick, whatever the budget, the lock and the
mask: it lands unlocked on the next enabled plugin, at the start of its animation, with the
count at zero. Only the lock key prevents it, if the mask enables the plugin on display;
that plugin is then locked, and the count starts over. -/
theorem forced_rotation {plugins : List (Plugin σ)} (reachable : Reachable plugins c)
    (studio : Studio) (key : String) (mask : UInt64) (enabled : c.hasEnabled mask = true) :
    (key ≠ Panel.lockKey ∨ c.activeId &&& mask = 0 →
      c.forceNext.Rotates studio key mask ∧
      ∃ distance q, c.NextAt mask distance ∧
        (c.forceNext.tick studio key mask).1.current = c.placeAfter distance ∧
        (c.placeAfter distance = c.current → ∀ i, c.enabledAt mask i = true → i = c.current) ∧
        (c.forceNext.decided studio key mask).1.active = some q ∧
        q.screen.index = 0 ∧ q.screen.ticks = 0 ∧
        (c.forceNext.tick studio key mask).1.ticks = 0 ∧
        (c.forceNext.tick studio key mask).1.locked = false) ∧
    (key = Panel.lockKey → c.activeId &&& mask ≠ 0 →
      (c.forceNext.tick studio key mask).1.current = c.current ∧
        (c.forceNext.tick studio key mask).1.ticks = 0 ∧
        (c.forceNext.tick studio key mask).1.locked = true) := by
  have inside := reachable.inside (plugins_ne_nil_of_hasEnabled enabled)
  obtain ⟨p, found⟩ := active_of_inside inside
  have forced := c.evolves_forceNext
  have same := c.current_forceNext
  have still : c.forceNext.active = some p := by
    rw [forceNext_of_active found]
    exact found
  obtain ⟨q, here, evolved⟩ := c.forceNext.active_pressed studio key still
  have due : (c.forceNext.pressed studio key).GivesWay mask q ↔
      key ≠ Panel.lockKey ∨ p.enabledBy mask = false := givesWay_forceNext found evolved
  have disabled : c.activeId &&& mask = 0 ↔ p.enabledBy mask = false := by
    rw [← not_iff_not, ← ne_eq, activeId_iff, enabledAt_current found, Bool.not_eq_false]
  rw [disabled]
  refine ⟨fun free => ?_, fun lock shown => ?_⟩
  · have gives := due.mpr free
    obtain ⟨distance, r, next, onShow, index, ticks, dial⟩ :=
      landing_of_givesWay studio key mask here gives ((forced.hasEnabled mask).trans enabled)
    have next : c.NextAt mask distance := next.of_evolves forced same
    rw [forced.placeAfter same] at dial
    exact ⟨turn_of_givesWay here gives _, distance, r, next, congrArg Prod.fst dial,
      next.only inside, onShow, index, ticks, congrArg (·.2.1) dial, congrArg (·.2.2) dial⟩
  · have stays : ¬ (c.forceNext.pressed studio key).GivesWay mask q := by
      rw [due, not_or]
      exact ⟨fun other => other lock, fun off => shown (disabled.mpr off)⟩
    have dial := dial_of_not_givesWay studio key mask still here evolved stays
    rw [if_pos (spent_forceNext found), lockedAfter_forceNext, decide_eq_true lock] at dial
    exact ⟨(congrArg Prod.fst dial).trans same, congrArg (·.2.1) dial, congrArg (·.2.2) dial⟩

/-- The second plugin, locked in its first tick. Forced, it gives way to the third one in
spite of its budget of three. -/
theorem forced_rotation_trio :
    let second := trioAfter [.tick default "" 7, .tick default "L2" 7]
    Reachable trio second ∧ second.hasEnabled 7 = true ∧ second.locked = true ∧
      second.current = 1 ∧ second.forceNext.Rotates default "" 7 ∧
      (second.forceNext.tick default "" 7).1.current = 2 ∧
      (second.forceNext.tick default "" 7).1.locked = false := by
  intro second
  have reachable : Reachable trio second := reachable_trioAfter _
  have enabled : second.hasEnabled 7 = true := by decide +kernel
  obtain ⟨rotates, distance, _, next, current, _, _, _, _, _, unlocked⟩ :=
    (forced_rotation reachable default "" 7 enabled).1 (.inl (by decide))
  have behind : second.enabledAt 7 (second.placeAfter 1) = true := by decide +kernel
  have first : distance = 1 := by
    have positive := next.pos
    by_contra later
    rw [next.first 1 (Nat.le_refl 1) (by omega)] at behind
    cases behind
  refine ⟨reachable, enabled, by decide +kernel, by decide +kernel, rotates, ?_, unlocked⟩
  rw [current, first]
  decide +kernel

/-- Not every forced rotation takes place: with the lock key in the next tick the second
plugin stays on display, locked, though the two others are enabled. -/
theorem forced_rotation_lost :
    ∃ c, Reachable trio c ∧ c.plugins ≠ [] ∧ c.hasEnabled 7 = true ∧ c.current = 1 ∧
      c.enabledAt 7 0 = true ∧ c.enabledAt 7 2 = true ∧
      (c.forceNext.tick default "L2" 7).1.current = 1 ∧
      (c.forceNext.tick default "L2" 7).1.locked = true :=
  ⟨trioAfter [.tick default "" 7], reachable_trioAfter _, loaded_trioAfter _, by decide +kernel,
    by decide +kernel, by decide +kernel, by decide +kernel, by decide +kernel, by decide +kernel⟩

end LcdCompositor.Carousel
