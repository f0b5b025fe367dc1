import LcdCompositor.Proofs.Carousel.Search

/-!
# What a tick decides

Before anything is redrawn a tick counts, handles the key, and decides what is on
display. `Turned` lists the four ways in which that can end: the animation goes on,
the lock holds the plugin beyond its budget, the next plugin takes over, or no plugin
is enabled. Everything about the course of the rotation is read off this list.
-/

namespace LcdCompositor.Carousel

variable {σ : Type} {c d : Carousel σ} {mask : UInt64}

section Key

/-- Whether the carousel is locked once a key has been handled. -/
def lockedAfter (c : Carousel σ) (key : String) : Bool :=
  if key = Panel.lockKey then !c.locked else c.locked

/-- A carousel that has counted the tick and handled the key. -/
def pressed (c : Carousel σ) (studio : Studio) (key : String) : Carousel σ :=
  (c.countTick.handleKey studio key).1

/-- The key either changes only the lock, or closes it and marks the plugin on display. -/
theorem pressed_cases (c : Carousel σ) (studio : Studio) (key : String) :
    c.pressed studio key = { c.countTick with locked := c.lockedAfter key } ∨
      c.pressed studio key =
        { c.countTick with locked := c.lockedAfter key }.onActive
          (·.onScreen Screen.markLocked) := by
  rw [pressed, handleKey, lockedAfter]
  by_cases lock : key = Panel.lockKey
  · rw [if_pos lock, if_pos lock]
    cases locked : c.locked with
    | true =>
      left
      simp [countTick, locked]
    | false =>
      right
      simp [countTick, locked]
  · left
    rw [if_neg lock, if_neg lock]
    rfl

variable (c : Carousel σ) (studio : Studio) (key : String)

@[simp] theorem current_pressed : (c.pressed studio key).current = c.current := by
  rcases c.pressed_cases studio key with h | h <;> exact (congrArg Carousel.current h).trans rfl

@[simp] theorem ticks_pressed :
    (c.pressed studio key).ticks = min (c.ticks + 1) tickLimit := by
  rcases c.pressed_cases studio key with h | h <;> exact (congrArg Carousel.ticks h).trans rfl

@[simp] theorem locked_pressed : (c.pressed studio key).locked = c.lockedAfter key := by
  rcases c.pressed_cases studio key with h | h <;> exact (congrArg Carousel.locked h).trans rfl

@[simp] theorem report_pressed : (c.pressed studio key).report = c.report := by
  rcases c.pressed_cases studio key with h | h <;> exact (congrArg Carousel.report h).trans rfl

theorem evolves_pressed : c.Evolves (c.pressed studio key) := by
  have relocked : c.Evolves { c.countTick with locked := c.lockedAfter key } := .of_plugins_eq rfl
  rcases c.pressed_cases studio key with h | h <;> rw [h]
  · exact relocked
  · exact relocked.trans (evolves_onActive fun p _ => p.onScreen_evolves (.markLocked p.screen))

theorem active_pressed {p : Plugin σ} (found : c.active = some p) :
    ∃ q, (c.pressed studio key).active = some q ∧ p.Evolves q := by
  obtain ⟨q, here, evolved⟩ := (c.evolves_pressed studio key).at_place found
  refine ⟨q, ?_, evolved⟩
  rw [active, current_pressed]
  exact here

end Key

theorem active_of_inside (inside : c.current < c.plugins.length) : ∃ p, c.active = some p :=
  ⟨_, List.getElem?_eq_getElem inside⟩

theorem inside_of_active {p : Plugin σ} (found : c.active = some p) :
    c.current < c.plugins.length :=
  (List.getElem?_eq_some_iff.mp found).1

theorem mem_of_active {p : Plugin σ} (found : c.active = some p) : p ∈ c.plugins :=
  List.mem_of_getElem? found

theorem loaded_of_active {p : Plugin σ} (found : c.active = some p) : c.plugins ≠ [] :=
  List.ne_nil_of_mem (mem_of_active found)

theorem enabledAt_current {p : Plugin σ} (found : c.active = some p) (mask : UInt64) :
    c.enabledAt mask c.current = p.enabledBy mask := by
  rw [active] at found
  rw [enabledAt, found, Option.any_some]

theorem disabled_of_none {p : Plugin σ} (found : c.active = some p)
    (nothing : c.hasEnabled mask = false) : p.enabledBy mask = false := by
  rw [← enabledAt_current found mask, ← Bool.not_eq_true]
  intro enabled
  rw [hasEnabled_of_enabledAt enabled] at nothing
  cases nothing

/-- A plugin gives way when it is disabled, or at its budget unless it is locked. -/
def GivesWay (c : Carousel σ) (mask : UInt64) (p : Plugin σ) : Prop :=
  p.enabledBy mask = false ∨ (p.screen.tempo.budget.toNat ≤ c.ticks ∧ c.locked = false)

/-- What governs the rotation: the place on display, the count of ticks, and the lock. -/
def dial (c : Carousel σ) : Nat × Nat × Bool := (c.current, c.ticks, c.locked)

/-- The four ways in which it can be decided what is on display. -/
inductive Turned (c : Carousel σ) (mask : UInt64) : Carousel σ → Option Fault → Prop
  | goesOn {p : Plugin σ} {t : Screen} (found : c.active = some p)
      (enabled : p.enabledBy mask = true)
      (early : c.ticks < p.screen.tempo.budget.toNat) (moved : p.screen.advance = .ok t) :
      Turned c mask (c.onActive fun p => { p with screen := t }) none
  | holds {p : Plugin σ} {t : Screen} (found : c.active = some p)
      (enabled : p.enabledBy mask = true) (due : p.screen.tempo.budget.toNat ≤ c.ticks)
      (locked : c.locked = true) (moved : p.screen.advance = .ok t) :
      Turned c mask ({ c with ticks := 0 }.onActive fun p => { p with screen := t }) none
  | rotates {p q : Plugin σ} {plugins : List (Plugin σ)} {distance : Nat}
      (found : c.active = some p) (due : c.GivesWay mask p) (next : c.NextAt mask distance)
      (evolved : c.Evolves { c with plugins })
      (landed : plugins[c.placeAfter distance]? = some q)
      (index : q.screen.index = 0) (ticks : q.screen.ticks = 0) :
      Turned c mask
        { c with plugins, current := c.placeAfter distance, ticks := 0, locked := false } none
  | fails {plugins : List (Plugin σ)} (nothing : c.hasEnabled mask = false)
      (evolved : c.Evolves { c with plugins })
      (forgotten : ∀ p ∈ plugins, p.screen.everLocked = false) :
      Turned c mask { c with plugins, locked := false } (some (.allDisabled mask))

theorem advance_eq {p : Plugin σ} {t : Screen} (found : c.active = some p)
    (moved : p.screen.advance = .ok t) :
    c.advance = (c.onActive fun p => { p with screen := t }, none) := by
  rw [advance, found]
  dsimp only
  rw [moved]

/-- Whoever has to give way starts a rotation of the unlocked carousel. -/
theorem turn_of_givesWay {p : Plugin σ} (found : c.active = some p) (due : c.GivesWay mask p)
    (studio : Studio) : c.turn studio mask = rotate { c with locked := false } studio mask := by
  rw [turn, found]
  dsimp only
  rcases due with disabled | ⟨due, unlocked⟩
  · rw [disabled]
    rfl
  · have same : { c with locked := false } = c := by rw [← unlocked]
    cases enabled : p.enabledBy mask with
    | false => rfl
    | true =>
      rw [if_neg (by simp), if_pos due, if_neg (by simp [unlocked]), same]

theorem dial_advance (c : Carousel σ) : c.advance.1.dial = c.dial := by
  rw [advance]
  split
  · rfl
  · split <;> rfl

/-- Whoever stays does so with the count as it is, or started over at the budget, also where
the animation cannot go on. -/
theorem dial_turn_of_stays {p : Plugin σ} (found : c.active = some p)
    (stays : ¬ c.GivesWay mask p) (studio : Studio) :
    (c.turn studio mask).1.dial =
      (c.current, if p.screen.tempo.budget.toNat ≤ c.ticks then 0 else c.ticks, c.locked) := by
  obtain ⟨enabled, stays⟩ := not_or.mp stays
  rw [Bool.not_eq_false] at enabled
  rw [turn, found]
  dsimp only
  rw [if_neg (by simp [enabled])]
  by_cases due : p.screen.tempo.budget.toNat ≤ c.ticks
  · have locked : c.locked = true := by simpa [due] using stays
    rw [if_pos due, if_pos due, if_pos locked]
    exact dial_advance { c with ticks := 0 }
  · rw [if_neg due, if_neg due]
    exact c.dial_advance

/-- The decision on a loaded carousel is one of the four. -/
theorem turned {p : Plugin σ} (found : c.active = some p) (ready : p.Ready) (studio : Studio)
    (mask : UInt64) : Turned c mask (c.turn studio mask).1 (c.turn studio mask).2.2 := by
  have inside := inside_of_active found
  obtain ⟨t, moved⟩ := ready.showable.advance
  by_cases due : c.GivesWay mask p
  · rw [turn_of_givesWay found due]
    cases enabled : c.hasEnabled mask with
    | true =>
      obtain ⟨distance, next⟩ := exists_nextAt inside enabled
      have unlocked : NextAt { c with locked := false } mask distance :=
        ⟨next.pos, next.round, next.enabled, next.first⟩
      obtain ⟨plugins, q, evolved, landed, index, ticks, result, fault⟩ :=
        rotate_of_next unlocked studio
      rw [result, fault]
      exact .rotates found due next evolved landed index ticks
    | false =>
      obtain ⟨plugins, evolved, forgotten, result⟩ :=
        rotate_of_none (c := { c with locked := false }) inside enabled studio
      rw [result]
      exact .fails enabled evolved forgotten
  · obtain ⟨enabled, stays⟩ := not_or.mp due
    rw [Bool.not_eq_false] at enabled
    rw [turn, found]
    dsimp only
    rw [if_neg (by simp [enabled])]
    by_cases early : c.ticks < p.screen.tempo.budget.toNat
    · rw [if_neg (by omega), advance_eq found moved]
      exact .goesOn found enabled early moved
    · have spent : p.screen.tempo.budget.toNat ≤ c.ticks := Nat.le_of_not_lt early
      have locked : c.locked = true := by simpa [spent] using stays
      rw [if_pos spent, if_pos locked, advance_eq (c := { c with ticks := 0 }) found moved]
      exact .holds found enabled spent locked moved

namespace Turned

variable {fault : Option Fault}

theorem evolves (h : Turned c mask d fault) : c.Evolves d := by
  cases h with
  | goesOn found _ _ moved =>
    refine evolves_onActive fun p here => ?_
    cases found.symm.trans here
    exact ⟨rfl, .advance moved⟩
  | holds found _ _ _ moved =>
    refine Evolves.trans (d := { c with ticks := 0 }) (.of_plugins_eq rfl) ?_
    refine evolves_onActive fun p here => ?_
    cases found.symm.trans here
    exact ⟨rfl, .advance moved⟩
  | rotates _ _ _ evolved => exact evolved
  | fails _ evolved => exact evolved

theorem report (h : Turned c mask d fault) : d.report = c.report := by
  cases h <;> rfl

theorem inside (h : Turned c mask d fault) (inside : c.current < c.plugins.length) :
    d.current < d.plugins.length := by
  have length := h.evolves.length
  cases h with
  | rotates _ _ _ _ landed => exact (List.getElem?_eq_some_iff.mp landed).1
  | _ => exact length ▸ inside

/-- A decision fails only when nothing is enabled. -/
theorem fault_iff (h : Turned c mask d fault) :
    fault = some (.allDisabled mask) ∧ c.hasEnabled mask = false ∨
      fault = none ∧ c.hasEnabled mask = true := by
  cases h with
  | goesOn found enabled =>
    exact .inr ⟨rfl, hasEnabled_of_enabledAt ((enabledAt_current found mask).trans enabled)⟩
  | holds found enabled =>
    exact .inr ⟨rfl, hasEnabled_of_enabledAt ((enabledAt_current found mask).trans enabled)⟩
  | rotates _ _ next => exact .inr ⟨rfl, hasEnabled_of_enabledAt next.enabled⟩
  | fails nothing => exact .inl ⟨rfl, nothing⟩

/-- A decision that does not fail puts an enabled plugin on display. -/
theorem enabled (h : Turned c mask d none) : c.enabledAt mask d.current = true := by
  cases h with
  | goesOn found enabled => exact (enabledAt_current found mask).trans enabled
  | holds found enabled => exact (enabledAt_current found mask).trans enabled
  | rotates _ _ next => exact next.enabled

/-- A plugin that does not give way goes on with its animation. At its budget the lock
starts the count over. -/
theorem staying {p : Plugin σ} (h : Turned c mask d fault) (found : c.active = some p)
    (stays : ¬ c.GivesWay mask p) :
    fault = none ∧
      (∃ t, p.screen.advance = .ok t ∧ d.active = some { p with screen := t }) ∧
      d.dial =
        (c.current, if p.screen.tempo.budget.toNat ≤ c.ticks then 0 else c.ticks, c.locked) := by
  cases h with
  | goesOn here _ early moved =>
    cases found.symm.trans here
    refine ⟨rfl, ⟨_, moved, active_onActive _ found⟩, ?_⟩
    rw [if_neg (by omega)]
    rfl
  | holds here _ due _ moved =>
    cases found.symm.trans here
    refine ⟨rfl, ⟨_, moved, active_onActive (c := { c with ticks := 0 }) _ found⟩, ?_⟩
    rw [if_pos due]
    rfl
  | rotates here due =>
    cases found.symm.trans here
    exact absurd due stays
  | fails nothing => exact absurd (.inl (disabled_of_none found nothing)) stays

end Turned

/-- A tick up to its redraw: it counts, handles the key, and decides. -/
def decided (c : Carousel σ) (studio : Studio) (key : String) (mask : UInt64) :
    Carousel σ × Studio × Option Fault :=
  let (c, studio) := c.countTick.handleKey studio key
  c.turn studio mask

theorem decided_eq (c : Carousel σ) (studio : Studio) (key : String) (mask : UInt64) :
    c.decided studio key mask =
      (c.pressed studio key).turn (c.countTick.handleKey studio key).2 mask := rfl

theorem compose_eq (loaded : c.plugins ≠ []) (studio : Studio) (key : String) (mask : UInt64) :
    c.compose studio key mask =
      match c.decided studio key mask with
      | (d, studio, some fault) => (d, studio, some (.fault fault))
      | (d, studio, none) => d.redraw studio := by
  rw [compose, if_neg (by simpa using loaded)]
  rfl

end LcdCompositor.Carousel
