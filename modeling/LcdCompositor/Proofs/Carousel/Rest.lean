import LcdCompositor.Proofs.Carousel.Run

/-!
# What a tick leaves alone

A tick can touch plugins in three roles: the one that is left, those that the search
looks at, and the one on display in the end. The first two lose or gain their lock
history and nothing else; frames, counts and the position of an animation move only on
display. When no plugin is enabled, nothing but lock histories changes at all.

None of this depends on what redraws do, for a redraw is given one screen and hands
that one back. What a plugin is never changes as long as redraws are orderly.
-/

namespace LcdCompositor

variable {σ : Type}

namespace Plugin

/-- Nothing of a plugin has changed but its lock history. -/
def Rests (p q : Plugin σ) : Prop :=
  ∃ locked, q = p.onScreen fun s => { s with everLocked := locked }

theorem Rests.refl (p : Plugin σ) : p.Rests p := ⟨p.screen.everLocked, rfl⟩

theorem Rests.trans {p q r : Plugin σ} (first : p.Rests q) (second : q.Rests r) : p.Rests r := by
  obtain ⟨_, rfl⟩ := first
  obtain ⟨locked, rfl⟩ := second
  exact ⟨locked, rfl⟩

end Plugin

namespace Carousel

variable {c d e : Carousel σ} {i : Nat}

/-- The plugin at a place rests from one carousel to another. -/
def RestsAt (c d : Carousel σ) (i : Nat) : Prop :=
  Option.Rel Plugin.Rests c.plugins[i]? d.plugins[i]?

section Place

theorem RestsAt.of_plugins_eq (h : d.plugins = c.plugins) : c.RestsAt d i := by
  rw [RestsAt, h]
  cases c.plugins[i]? with
  | none => exact .none
  | some p => exact .some (.refl p)

theorem RestsAt.refl (c : Carousel σ) : c.RestsAt c i := of_plugins_eq rfl

theorem RestsAt.trans (first : c.RestsAt d i) (second : d.RestsAt e i) : c.RestsAt e i := by
  rw [RestsAt] at first second ⊢
  generalize c.plugins[i]? = p at first ⊢
  generalize d.plugins[i]? = q at first second
  generalize e.plugins[i]? = r at second ⊢
  cases first with
  | none => exact second
  | some old =>
    cases second with
    | some new => exact .some (old.trans new)

/-- A change of one plugin is none of any other. -/
theorem restsAt_modify_of_ne {k : Nat} (f : Plugin σ → Plugin σ) (elsewhere : i ≠ k) :
    c.RestsAt { c with plugins := c.plugins.modify k f } i := by
  rw [RestsAt, List.getElem?_modify_ne f c.plugins (Ne.symm elsewhere)]
  exact RestsAt.refl c

/-- A change of a lock history disturbs no plugin, not even its own. -/
theorem restsAt_modify_lock (k : Nat) {f : Screen → Screen}
    (lock : ∀ s, ∃ locked, f s = { s with everLocked := locked }) :
    c.RestsAt { c with plugins := c.plugins.modify k (·.onScreen f) } i := by
  by_cases here : i = k
  · subst here
    rw [RestsAt, List.getElem?_modify]
    cases c.plugins[i]? with
    | none => exact .none
    | some p =>
      obtain ⟨locked, same⟩ := lock p.screen
      refine .some ⟨locked, ?_⟩
      dsimp only
      rw [if_pos rfl, Plugin.onScreen, same, Plugin.onScreen]
  · exact restsAt_modify_of_ne _ here

end Place

/-- Whoever is not on display in the end rests, and with a fault everyone does. -/
def Spares (c d : Carousel σ) (fault : Option Fault) (i : Nat) : Prop :=
  (fault = none → i ≠ d.current) → c.RestsAt d i

section Tick

variable (c) (i) (studio : Studio) (key : String) (mask : UInt64)

theorem restsAt_pressed : c.RestsAt (c.pressed studio key) i := by
  rcases c.pressed_cases studio key with pressed | pressed
  · rw [pressed]
    exact .of_plugins_eq rfl
  · rw [pressed]
    exact restsAt_modify_lock c.current fun s => ⟨true, rfl⟩

/-- The search goes over lock histories only, wherever it ends. -/
theorem restsAt_seek (distance left : Nat) : c.RestsAt (seek mask c distance left).1 i := by
  induction left generalizing c distance with
  | zero => exact .refl c
  | succ left ih =>
    have looked : c.RestsAt (c.forget (c.placeAfter distance)) i :=
      restsAt_modify_lock _ fun s => ⟨false, rfl⟩
    rw [seek_succ]
    split
    · exact looked
    · exact looked.trans (ih _ _)

/-- A rotation restarts the animation of the plugin that it lands on, and of no other. -/
theorem spares_rotate : c.Spares (c.rotate studio mask).1 (c.rotate studio mask).2.2 i := by
  intro elsewhere
  have searched := c.restsAt_seek i mask 1 c.plugins.length
  rw [rotate] at elsewhere ⊢
  split
  next d result =>
    rw [result] at searched
    exact searched
  next d k result =>
    rw [result] at searched elsewhere
    have away : i ≠ k := elsewhere rfl
    exact searched.trans (restsAt_modify_of_ne _ away)

theorem spares_advance : c.Spares c.advance.1 c.advance.2 i := by
  rw [advance]
  split
  · exact fun _ => .refl c
  · split
    · exact fun _ => .refl c
    · intro elsewhere
      exact restsAt_modify_of_ne _ (elsewhere rfl)

/-- Whatever is decided moves at most the plugin that is on display then. -/
theorem spares_turn : c.Spares (c.turn studio mask).1 (c.turn studio mask).2.2 i := by
  -- The decision starts from a carousel with the same plugins.
  have since {d : Carousel σ} (same : d.plugins = c.plugins) {e : Carousel σ}
      {fault : Option Fault} (spares : d.Spares e fault i) : c.Spares e fault i :=
    fun elsewhere => (RestsAt.of_plugins_eq same).trans (spares elsewhere)
  rw [turn]
  split
  · exact fun _ => .refl c
  · split
    · exact since rfl (spares_rotate { c with locked := false } i studio mask)
    · split
      · split
        · exact since rfl (spares_advance { c with ticks := 0 } i)
        · exact spares_rotate c i studio mask
      · exact spares_advance c i

/-- A redraw changes the plugin on display and the report. -/
theorem exists_redraw :
    ∃ f report, (c.redraw studio).1 = { c.onActive f with report } := by
  have encoded (d : Carousel σ) : ∃ report, d.encode.1 = { d with report } := by
    rw [encode]
    split
    · exact ⟨d.report, rfl⟩
    · split
      · exact ⟨d.report, rfl⟩
      · split <;> exact ⟨_, rfl⟩
  rw [redraw]
  split
  · exact ⟨id, c.report, by rw [onActive, List.modify_id]⟩
  next p found =>
    split
    · exact ⟨_, c.report, rfl⟩
    next q after redrawn =>
      obtain ⟨report, same⟩ := encoded (c.onActive fun _ => { q with
        screen := (Scene.padlock ⟨q.screen, after⟩ c.locked Padlock.column Padlock.row).screen })
      exact ⟨_, report, same⟩

/-- A tick spares whom its decision spares, for only the plugin on display is redrawn. -/
theorem spares_compose (loaded : c.plugins ≠ []) :
    c.Spares (c.compose studio key mask).1 (c.decided studio key mask).2.2 i := by
  intro elsewhere
  have pressed := c.restsAt_pressed i studio key
  have turned := spares_turn (c.pressed studio key) i (c.countTick.handleKey studio key).2 mask
  rw [← decided_eq] at turned
  rw [compose_eq loaded] at elsewhere ⊢
  split
  next d after fault result =>
    rw [result] at turned
    exact pressed.trans (turned nofun)
  next d after result =>
    rw [result] at turned elsewhere
    obtain ⟨f, report, redrawn⟩ := d.exists_redraw after
    have away : i ≠ d.current := by
      have current := congrArg Carousel.current redrawn
      exact current ▸ elsewhere rfl
    have shown : d.RestsAt { d.onActive f with report } i := restsAt_modify_of_ne f away
    rw [redrawn]
    exact pressed.trans ((turned fun _ => away).trans shown)

theorem spares_tick :
    c.Spares (c.tick studio key mask).1 (c.decided studio key mask).2.2 i := by
  intro elsewhere
  have stamped : (c.compose studio key mask).1.RestsAt (c.tick studio key mask).1 i :=
    .of_plugins_eq (c.plugins_tick studio key mask)
  by_cases loaded : c.plugins = []
  · rw [compose_of_empty studio key mask loaded] at stamped
    exact stamped
  · have current : (c.tick studio key mask).1.current = (c.compose studio key mask).1.current :=
      (congrArg Carousel.current (c.tick_eq studio key mask)).trans rfl
    rw [current] at elsewhere
    exact (spares_compose c i studio key mask loaded elsewhere).trans stamped

/-- Without an enabled plugin no decision can be made. -/
theorem decided_of_none (nothing : c.hasEnabled mask = false) :
    (c.decided studio key mask).2.2 ≠ none := by
  have same := (c.evolves_pressed studio key).hasEnabled mask
  rw [nothing] at same
  rw [decided_eq, turn]
  split
  · exact Option.some_ne_none _
  next p found =>
    have disabled := disabled_of_none found same
    obtain ⟨plugins, _, _, failed⟩ := rotate_of_none
      (c := { c.pressed studio key with locked := false }) (inside_of_active found) same
      (c.countTick.handleKey studio key).2
    rw [if_pos (by rw [disabled]; rfl), failed]
    exact Option.some_ne_none _

end Tick

/-- A tick leaves every plugin but the one on display after it as it was, save for its
lock history, and with a mask that enables no plugin it leaves the one on display too.
No run of orderly plugins changes which plugins there are, or their order. -/
theorem tick_leaves :
    (∀ {σ : Type} (c : Carousel σ) (studio : Studio) (key : String) (mask : UInt64),
      (∀ i, i ≠ (c.tick studio key mask).1.current → c.RestsAt (c.tick studio key mask).1 i) ∧
      (c.hasEnabled mask = false → ∀ i, c.RestsAt (c.tick studio key mask).1 i)) ∧
    (∀ {σ : Type} {plugins : List (Plugin σ)} {c : Carousel σ},
      (∀ p ∈ plugins, p.Orderly) → Reachable plugins c →
      ∀ moves : List Move, (c.run moves).roll = c.roll) := by
  constructor
  · intro σ c studio key mask
    constructor
    · intro i elsewhere
      exact c.spares_tick i studio key mask fun _ => elsewhere
    · intro nothing i
      have failed := c.decided_of_none studio key mask nothing
      exact c.spares_tick i studio key mask fun done => absurd done failed
  · intro σ plugins c orderly reachable moves
    exact (evolves_run moves (reachable.sound orderly)).roll

/-- The first plugin gives way to the second, which is redrawn, while the third rests. A
mask without any bits then leaves even the second as it is. -/
theorem tick_leaves_trio :
    (∀ p ∈ trio, p.Orderly) ∧ Reachable trio (trioAfter []) ∧
      ((trioAfter []).run [.tick default "" 7]).roll = (trioAfter []).roll ∧
      ((trioAfter []).tick default "" 7).1.current = 1 ∧
      (trioAfter []).RestsAt ((trioAfter []).tick default "" 7).1 2 ∧
      (trioAfter [.tick default "" 7]).hasEnabled 0 = false ∧
      (trioAfter [.tick default "" 7]).RestsAt
        ((trioAfter [.tick default "" 7]).tick default "" 0).1 1 := by
  have shown : ((trioAfter []).tick default "" 7).1.current = 1 := by decide +kernel
  have nothing : (trioAfter [.tick default "" 7]).hasEnabled 0 = false := by decide +kernel
  have away : 2 ≠ ((trioAfter []).tick default "" 7).1.current := by
    rw [shown]
    decide
  have reachable := reachable_trioAfter []
  refine ⟨trio_orderly, reachable, tick_leaves.2 trio_orderly reachable _, shown, ?_, nothing, ?_⟩
  · exact (tick_leaves.1 (trioAfter []) default "" 7).1 2 away
  · exact (tick_leaves.1 (trioAfter [.tick default "" 7]) default "" 0).2 nothing 1

end Carousel

end LcdCompositor
