import LcdCompositor.Proofs.Carousel.Rotation
import LcdCompositor.Proofs.Screen.Animation
import Mathlib.Data.List.Induction

/-!
# The lock

A locked carousel keeps its plugin on display for as long as the mask enables it, and
the animation goes on as if there were no budget: one step in every tick, also in those
that start the count over. The lock itself follows the lock key alone.
-/

namespace LcdCompositor

variable {σ : Type}

/-- Redraws leave the animation where it stands. -/
def Behaviour.Steady (b : Behaviour σ) : Prop :=
  ∀ memory scene, (b.refresh memory scene).scene.screen.position = scene.screen.position

/-- Redraws leave frames to be shown for as long as before. -/
def Behaviour.KeepsCounts (b : Behaviour σ) : Prop :=
  ∀ memory scene, (b.refresh memory scene).scene.screen.counts = scene.screen.counts

namespace Carousel

variable {c d : Carousel σ} {p : Plugin σ} {studio : Studio} {key : String} {mask : UInt64}

section Animation

/-- A key other than the lock key only lets the tick count. -/
theorem pressed_of_plain (plain : key ≠ Panel.lockKey) :
    c.pressed studio key = c.countTick := by
  rw [pressed, handleKey, if_neg plain]

/-- The padlock leaves the animation to the plugin's own redraw. -/
theorem Redrawn.animation {interruption : Option Interruption}
    (h : Redrawn c studio d interruption)
    (found : c.active = some p) :
    ∃ q, d.active = some q ∧
      q.screen.position = (p.refresh studio).1.screen.position ∧
      q.screen.counts = (p.refresh studio).1.screen.counts := by
  cases h with
  | breaks here =>
    cases found.symm.trans here
    exact ⟨_, active_onActive _ found, rfl, rfl⟩
  | shows here =>
    cases found.symm.trans here
    exact ⟨_, active_onActive _ found,
      Scene.padlock_animation ⟨(p.refresh studio).1.screen, (p.refresh studio).2.1⟩ ..⟩

/-- A tick that does not rotate takes one step of the animation and lets the plugin redraw. -/
theorem animation_tick (h : c.Sound) (found : c.active = some p) (plain : key ≠ Panel.lockKey)
    (stays : ¬ c.Rotates studio key mask) :
    ∃ t after q, p.screen.advance = .ok t ∧ (c.tick studio key mask).1.active = some q ∧
      q.screen.position = (p.behaviour.refresh p.memory ⟨t, after⟩).scene.screen.position ∧
      q.screen.counts = (p.behaviour.refresh p.memory ⟨t, after⟩).scene.screen.counts := by
  have ready := h.ready p (mem_of_active found)
  have loaded := loaded_of_active found
  have here : (c.pressed studio key).active = some p := by
    rw [pressed_of_plain plain]
    exact found
  have turn := decided_turned studio key mask h loaded
  rw [rotates_iff_givesWay studio key mask here ready] at stays
  obtain ⟨done, ⟨t, moved, onShow⟩, _⟩ := turn.staying here stays
  obtain ⟨q, shown, position, counts⟩ :=
    (redrawn_of_done studio key mask h loaded done).animation onShow
  exact ⟨t, _, q, moved, (active_tick ..).trans shown, position, counts⟩

end Animation

section Held

/-- No rotation takes a locked carousel away from a plugin that is enabled. -/
theorem not_rotates_of_locked (h : c.Sound) (locked : c.locked = true) (found : c.active = some p)
    (enabled : p.enabledBy mask = true) (plain : key ≠ Panel.lockKey) :
    ¬ c.Rotates studio key mask := by
  rw [rotates_iff studio key mask h found, lockedAfter, if_neg plain, enabled, locked]
  simp

theorem tick_of_locked (studio : Studio) (h : c.Sound) (locked : c.locked = true)
    (found : c.active = some p) (enabled : p.enabledBy mask = true) (plain : key ≠ Panel.lockKey) :
    (c.tick studio key mask).1.locked = true ∧
      (c.tick studio key mask).1.current = c.current ∧
      (c.tick studio key mask).1.ticks < max p.screen.tempo.budget.toNat 1 := by
  have stays : ¬ c.Rotates studio key mask := not_rotates_of_locked h locked found enabled plain
  have dial := dial_of_stays studio key mask h found stays
  rw [lockedAfter, if_neg plain, locked] at dial
  have ticks := congrArg (·.2.1) dial
  change (c.tick studio key mask).1.ticks = ite .. at ticks
  refine ⟨congrArg (·.2.2) dial, congrArg Prod.fst dial, ?_⟩
  rw [ticks]
  split <;> omega

variable {moves : List Move}

/-- A locked carousel stays as it is, and its count below the budget. -/
theorem run_of_locked (h : c.Sound) (locked : c.locked = true) (found : c.active = some p)
    (plain : ∀ m ∈ moves, m.Plain fun mask => p.enabledBy mask = true) :
    (c.run moves).locked = true ∧ (c.run moves).current = c.current ∧
      (moves ≠ [] → (c.run moves).ticks < max p.screen.tempo.budget.toNat 1) ∧
      ∃ q, (c.run moves).active = some q ∧ p.Evolves q := by
  induction moves using List.reverseRecOn with
  | nil => exact ⟨locked, rfl, fun some => absurd rfl some, p, found, .refl p⟩
  | append_singleton early m ih =>
    obtain ⟨before, last⟩ := List.forall_mem_append.mp plain
    obtain ⟨still, current, _, q, here, evolved⟩ := ih before
    have sound := h.run early
    rw [run_append]
    cases m with
    | forceNext => exact (last _ List.mem_cons_self).elim
    | tick studio key mask =>
      obtain ⟨quiet, enabled⟩ := last _ List.mem_cons_self
      have enabled : q.enabledBy mask = true := (evolved.enabledBy mask).trans enabled
      obtain ⟨held, same, ticks⟩ := tick_of_locked studio sound still here enabled quiet
      obtain ⟨r, there, later⟩ := (evolves_tick studio key mask sound).at_place here
      rw [evolved.screen.tempo] at ticks
      refine ⟨held, same.trans current, fun _ => ticks, r, ?_, evolved.trans later⟩
      change ((c.run early).tick studio key mask).1.active = some r
      rw [active, same]
      exact there

/-- One more tick takes the animation one step on from where it stands. -/
theorem step_of_locked (h : c.Sound) (locked : c.locked = true) (found : c.active = some p)
    (steady : p.behaviour.Steady)
    (plain : ∀ m ∈ moves, m.Plain fun mask => p.enabledBy mask = true) {m : Move}
    (last : m.Plain fun mask => p.enabledBy mask = true) :
    ∃ q t r, (c.run moves).active = some q ∧ q.screen.advance = .ok t ∧
      (c.run (moves ++ [m])).active = some r ∧ r.screen.position = t.position ∧
      (p.behaviour.KeepsCounts → r.screen.counts = q.screen.counts) := by
  obtain ⟨still, _, _, q, here, evolved⟩ := run_of_locked h locked found plain
  have sound := h.run moves
  rw [run_append]
  cases m with
  | forceNext => exact last.elim
  | tick studio key mask =>
    obtain ⟨quiet, enabled⟩ := last
    have enabled : q.enabledBy mask = true := (evolved.enabledBy mask).trans enabled
    have stays : ¬ (c.run moves).Rotates studio key mask :=
      not_rotates_of_locked sound still here enabled quiet
    obtain ⟨t, after, r, moved, there, position, counts⟩ := animation_tick sound here quiet stays
    rw [evolved.behaviour] at position counts
    refine ⟨q, t, r, here, moved, there, position.trans (steady ..), fun keeps => ?_⟩
    exact (counts.trans (keeps ..)).trans (Screen.counts_of_advance moved)

/-- As many ticks, so many steps of the animation. -/
theorem steps_of_locked (h : c.Sound) (locked : c.locked = true) (found : c.active = some p)
    (steady : p.behaviour.Steady) (keeps : p.behaviour.KeepsCounts)
    (plain : ∀ m ∈ moves, m.Plain fun mask => p.enabledBy mask = true) :
    ∃ q t, (c.run moves).active = some q ∧ p.screen.advances moves.length = .ok t ∧
      q.screen.position = t.position ∧ q.screen.counts = p.screen.counts := by
  induction moves using List.reverseRecOn with
  | nil => exact ⟨p, p.screen, found, rfl, rfl, rfl⟩
  | append_singleton early m ih =>
    obtain ⟨before, last⟩ := List.forall_mem_append.mp plain
    obtain ⟨q, s, here, reached, position, counts⟩ := ih before
    obtain ⟨q, t, r, again, moved, there, next, kept⟩ :=
      step_of_locked h locked found steady before (last _ List.mem_cons_self)
    cases here.symm.trans again
    have showable := (h.ready p (mem_of_active found)).showable
    obtain ⟨s, same, able, unchanged⟩ := showable.advances early.length
    cases reached.symm.trans same
    obtain ⟨u, ideal⟩ := able.advance
    refine ⟨r, u, there, ?_, ?_, (kept keeps).trans counts⟩
    · rw [List.length_append, List.length_singleton]
      exact Screen.advances_succ reached ideal
    · rw [next]
      exact Screen.advance_congr ideal moved position (counts.trans unchanged.symm)

end Held

section Parity

/-- Whether a move is a tick with the lock key. -/
def Move.pressesLock : Move → Bool
  | .tick _ key _ => key = Panel.lockKey
  | .forceNext => false

/-- Every move is a tick whose mask enables the plugin that it finds on display. -/
def Kept (c : Carousel σ) : List Move → Prop
  | [] => True
  | .tick studio key mask :: rest =>
    c.activeId &&& mask ≠ 0 ∧ Kept (c.tick studio key mask).1 rest
  | .forceNext :: _ => False

/-- Where the plugin on display is enabled, nothing but the key decides on the lock. -/
theorem locked_of_enabled (h : c.Sound) (enabled : c.enabledAt mask c.current = true) :
    (c.tick studio key mask).1.locked = c.lockedAfter key := by
  obtain ⟨p, found⟩ := active_of_inside (enabledAt_lt enabled)
  have loaded := loaded_of_active found
  by_cases rotates : c.Rotates studio key mask
  · have done := decided_done studio key mask h (hasEnabled_of_enabledAt enabled)
    obtain ⟨_, _, _, _, _, _, dial⟩ := landing_of_rotates studio key mask h loaded rotates done
    rw [rotates_iff studio key mask h found, ← enabledAt_current found mask, enabled] at rotates
    rcases rotates with disabled | ⟨_, unlocked⟩
    · cases disabled
    · rw [unlocked]
      exact congrArg (·.2.2) dial
  · exact congrArg (·.2.2) (dial_of_stays studio key mask h found rotates)

/-- The lock changes with every press of its key and at no other time. -/
theorem locked_run {moves : List Move} (h : c.Sound) (kept : c.Kept moves) :
    (c.run moves).locked = (c.locked ^^ decide (moves.countP Move.pressesLock % 2 = 1)) := by
  induction moves generalizing c with
  | nil => simp
  | cons m rest ih =>
    cases m with
    | forceNext => exact kept.elim
    | tick studio key mask =>
      obtain ⟨enabled, others⟩ := kept
      have locked : (c.tick studio key mask).1.locked = c.lockedAfter key :=
        locked_of_enabled h (activeId_iff.mp enabled)
      have result := ih (h.tick studio key mask) others
      rw [locked, lockedAfter] at result
      rw [List.countP_cons, Move.pressesLock]
      refine result.trans ?_
      by_cases press : key = Panel.lockKey
      · have flips : (rest.countP Move.pressesLock + 1) % 2 = 1 ↔
            ¬ rest.countP Move.pressesLock % 2 = 1 := by omega
        simp only [press, ↓reduceIte, decide_true, flips, decide_not]
        exact (Bool.not_xor ..).trans (Bool.xor_not ..).symm
      · simp [press]

end Parity

/-- Only a carousel with plugins is ever locked. -/
theorem Reachable.loaded_of_locked {plugins : List (Plugin σ)} (h : Reachable plugins c)
    (orderly : ∀ p ∈ plugins, p.Orderly) (locked : c.locked = true) : c.plugins ≠ [] := by
  have unlocked : c.plugins = [] → c.locked = false := by
    clear locked
    induction h with
    | start setting studio => exact fun _ => rfl
    | @move c m before ih =>
      intro empty
      have evolved := evolves_move m (before.sound orderly)
      have none : c.plugins = [] := by
        by_contra loaded
        exact evolved.plugins_ne_nil loaded empty
      cases m with
      | tick studio key mask =>
        have same : (c.tick studio key mask).1.locked = (c.compose studio key mask).1.locked := by
          rw [tick_eq]
        refine same.trans ?_
        rw [compose_of_empty studio key mask none]
        exact ih none
      | forceNext =>
        obtain ⟨ticks, forced⟩ := c.forceNext_eq
        exact congrArg Carousel.locked forced
  intro empty
  rw [unlocked empty] at locked
  cases locked

/-- Locked, a carousel keeps the plugin on display as long as it is enabled and the lock
key is left alone: its count stays below the budget and its animation takes one step in
every tick, over the frames it then has. Where redraws leave the counts of the frames
alone, that is as many steps from the start. Where the plugin on display is always
enabled, the lock changes with every press of its key and at no other time. -/
theorem lock_holds {plugins : List (Plugin σ)} (orderly : ∀ p ∈ plugins, p.Orderly)
    (reachable : Reachable plugins c) :
    (c.locked = true → ∃ p, c.active = some p ∧ ∀ moves : List Move,
      (∀ m ∈ moves, m.Plain fun mask => c.activeId &&& mask ≠ 0) →
        (c.run moves).locked = true ∧ (c.run moves).current = c.current ∧
        (moves ≠ [] → (c.run moves).ticks < max p.screen.tempo.budget.toNat 1) ∧
        (p.behaviour.Steady → ∀ m : Move, (m.Plain fun mask => c.activeId &&& mask ≠ 0) →
          ∃ q t r, (c.run moves).active = some q ∧ q.screen.advance = .ok t ∧
            (c.run (moves ++ [m])).active = some r ∧ r.screen.position = t.position) ∧
        (p.behaviour.Steady → p.behaviour.KeepsCounts →
          ∃ q t, (c.run moves).active = some q ∧ p.screen.advances moves.length = .ok t ∧
            q.screen.position = t.position)) ∧
    (∀ moves : List Move, c.Kept moves → (c.run moves).locked =
      (c.locked ^^ decide (moves.countP Move.pressesLock % 2 = 1))) := by
  have sound := reachable.sound orderly
  refine ⟨fun locked => ?_, fun moves kept => locked_run sound kept⟩
  obtain ⟨p, found, _⟩ := sound.active (reachable.loaded_of_locked orderly locked)
  refine ⟨p, found, fun moves plain => ?_⟩
  have fits : (fun mask => c.activeId &&& mask ≠ 0) = fun mask => p.enabledBy mask = true := by
    funext mask
    rw [← enabledAt_current found mask]
    exact propext activeId_iff
  rw [fits] at plain ⊢
  obtain ⟨still, same, ticks, _⟩ := run_of_locked sound locked found plain
  refine ⟨still, same, ticks, fun steady m last => ?_, fun steady keeps => ?_⟩
  · obtain ⟨q, t, r, here, moved, there, position, _⟩ :=
      step_of_locked sound locked found steady plain last
    exact ⟨q, t, r, here, moved, there, position⟩
  · obtain ⟨q, t, here, reached, position, _⟩ :=
      steps_of_locked sound locked found steady keeps plain
    exact ⟨q, t, here, reached, position⟩

theorem trio_steady : ∀ p ∈ trio, p.behaviour.Steady ∧ p.behaviour.KeepsCounts := by
  intro p member
  have idle : ∀ k scene, (p.behaviour.refresh k scene).scene = scene := by
    simp only [trio, List.mem_cons, List.not_mem_nil, or_false] at member
    rcases member with rfl | rfl | rfl
    · exact Script.refresh_idle fun _ given => absurd given List.not_mem_nil
    · exact Script.refresh_idle fun _ given => by simpa using given
    · exact Script.refresh_idle fun _ given => absurd given List.not_mem_nil
  exact ⟨fun k scene => congrArg (·.screen.position) (idle k scene),
    fun k scene => congrArg (·.screen.counts) (idle k scene)⟩

/-- The third plugin, locked for seven ticks beyond its budget of two; and a press of the
lock key that sets it free. -/
theorem lock_holds_trio :
    let locked := trioAfter [.tick default "" 5, .tick default "L2" 4]
    let moves := List.replicate 7 (Move.tick default "" 6)
    (∀ p ∈ trio, p.Orderly) ∧ Reachable trio locked ∧ locked.locked = true ∧
      (locked.run moves).locked = true ∧ (locked.run moves).current = 2 ∧
      (∃ p q t, locked.active = some p ∧ (locked.run moves).active = some q ∧
        p.screen.advances 7 = .ok t ∧ q.screen.position = t.position) ∧
      (locked.run [.tick default "L2" 4]).locked = false := by
  intro locked moves
  have reachable : Reachable trio locked := reachable_trioAfter _
  have closed : locked.locked = true := by decide +kernel
  have bit : locked.activeId &&& 6 ≠ 0 := by decide +kernel
  have place : locked.current = 2 := by decide +kernel
  obtain ⟨held, lock⟩ := lock_holds trio_orderly reachable
  obtain ⟨p, found, holds⟩ := held closed
  have plain : ∀ m ∈ moves, m.Plain fun mask => locked.activeId &&& mask ≠ 0 := by
    intro m member
    rw [(List.mem_replicate.mp member).2]
    exact ⟨by decide, bit⟩
  obtain ⟨still, same, _, _, steps⟩ := holds moves plain
  obtain ⟨steady, keeps⟩ := reachable.behaviours (P := fun b => b.Steady ∧ b.KeepsCounts)
    trio_orderly trio_steady p (mem_of_active found)
  obtain ⟨q, t, there, reached, position⟩ := steps steady keeps
  refine ⟨trio_orderly, reachable, closed, still, same.trans place,
    ⟨p, q, t, found, there, reached, position⟩, ?_⟩
  have kept : locked.Kept [.tick default "L2" 4] := ⟨by decide +kernel, trivial⟩
  refine (lock _ kept).trans ?_
  rw [closed]
  decide

end Carousel

end LcdCompositor
