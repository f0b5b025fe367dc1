import LcdCompositor.Proofs.Carousel.Run

/-!
# What the plugins of a carousel remember

A plugin changes its memory when it is redrawn, and only then. Nothing that a carousel decides
is noticed by the memories, so what a redraw keeps true of them is true in every run.
-/

namespace LcdCompositor

/-- Redraws keep something true of a memory. -/
def Behaviour.Remembers {σ : Type} (b : Behaviour σ) (P : σ → Prop) : Prop :=
  ∀ memory scene, P memory → P (b.refresh memory scene).memory

namespace Carousel

variable {σ : Type} {c d : Carousel σ} {studio : Studio}

section Decision

/-- What the plugins remember, in order. -/
def memories (c : Carousel σ) : List σ := c.plugins.map (·.memory)

/-- A change of one screen is none of any memory. -/
theorem memories_onScreen (c : Carousel σ) (i : Nat) (f : Screen → Screen) :
    memories { c with plugins := c.plugins.modify i (·.onScreen f) } = c.memories := by
  apply List.ext_getElem?
  intro j
  rw [memories, memories, List.getElem?_map, List.getElem?_map, List.getElem?_modify]
  cases c.plugins[j]? with
  | none => rfl
  | some p =>
    by_cases here : i = j
    · simp [here, Plugin.onScreen]
    · simp [here]

theorem memories_pressed (c : Carousel σ) (studio : Studio) (key : String) :
    (c.pressed studio key).memories = c.memories := by
  rcases c.pressed_cases studio key with pressed | pressed
  · rw [pressed]
    rfl
  · rw [pressed]
    exact memories_onScreen c c.current Screen.markLocked

theorem memories_seek (mask : UInt64) (c : Carousel σ) (distance left : Nat) :
    (seek mask c distance left).1.memories = c.memories := by
  induction left generalizing c distance with
  | zero => rfl
  | succ left ih =>
    have looked := c.memories_onScreen (c.placeAfter distance) Screen.clearLockHistory
    rw [seek_succ]
    split
    · exact looked
    · exact (ih _ _).trans looked

theorem memories_rotate (c : Carousel σ) (studio : Studio) (mask : UInt64) :
    (c.rotate studio mask).1.memories = c.memories := by
  have searched := memories_seek mask c 1 c.plugins.length
  rw [rotate]
  split
  next d result =>
    rw [result] at searched
    exact searched
  next d i result =>
    rw [result] at searched
    exact (memories_onScreen { d with current := i, ticks := 0 } i Screen.resetAnimation).trans
      searched

theorem memories_advance (c : Carousel σ) : c.advance.1.memories = c.memories := by
  rw [advance]
  split
  · rfl
  · split
    · rfl
    next screen _ => exact c.memories_onScreen c.current fun _ => screen

theorem memories_turn (c : Carousel σ) (studio : Studio) (mask : UInt64) :
    (c.turn studio mask).1.memories = c.memories := by
  rw [turn]
  split
  · rfl
  · split
    · exact memories_rotate { c with locked := false } studio mask
    · split
      · split
        · exact memories_advance { c with ticks := 0 }
        · exact memories_rotate c studio mask
      · exact c.memories_advance

/-- Whatever is decided, no plugin forgets or learns anything. -/
theorem memories_decided (c : Carousel σ) (studio : Studio) (key : String) (mask : UInt64) :
    (c.decided studio key mask).1.memories = c.memories := by
  rw [decided_eq, memories_turn, memories_pressed]

/-- Where the memories are the same, so are those of the plugins at a place. -/
theorem memory_at {p : Plugin σ} {i : Nat}
    (same : d.memories = c.memories) (found : d.plugins[i]? = some p) :
    ∃ old, c.plugins[i]? = some old ∧ old.memory = p.memory := by
  have here : c.memories[i]? = some p.memory := by
    rw [← same, memories, List.getElem?_map, found]
    rfl
  rw [memories, List.getElem?_map] at here
  exact Option.map_eq_some_iff.mp here

end Decision

section Run

variable {P : σ → Prop} {plugins : List (Plugin σ)} {key : String} {mask : UInt64}

/-- What is true of all plugins, and of the one on display after a change, is true of all after
the change. -/
theorem forall_mem_onActive {Q : Plugin σ → Prop} {f : Plugin σ → Plugin σ}
    (all : ∀ p ∈ c.plugins, Q p) (changed : ∀ p, c.active = some p → Q (f p)) :
    ∀ q ∈ (c.onActive f).plugins, Q q := by
  intro q member
  obtain ⟨i, found⟩ := List.mem_iff_getElem?.mp member
  rw [onActive, List.getElem?_modify] at found
  obtain ⟨p, here, rfl⟩ := Option.map_eq_some_iff.mp found
  by_cases same : c.current = i
  · subst same
    rw [if_pos rfl]
    exact changed p here
  · rw [if_neg same]
    exact all p (List.mem_of_getElem? here)

theorem Redrawn.remembers {interruption : Option Interruption}
    (h : Redrawn c studio d interruption) (keeps : ∀ p ∈ c.plugins, p.behaviour.Remembers P)
    (all : ∀ p ∈ c.plugins, P p.memory) : ∀ q ∈ d.plugins, P q.memory := by
  have refreshed {p : Plugin σ} (found : c.active = some p) : P (p.refresh studio).1.memory :=
    keeps p (mem_of_active found) _ _ (all p (mem_of_active found))
  cases h with
  | breaks found => exact forall_mem_onActive all fun _ _ => refreshed found
  | shows found => exact forall_mem_onActive all fun _ _ => refreshed found

/-- What redraws keep true of a memory is true after a tick. -/
theorem remembers_tick (h : c.Sound) (keeps : ∀ p ∈ c.plugins, p.behaviour.Remembers P)
    (all : ∀ p ∈ c.plugins, P p.memory) :
    ∀ q ∈ (c.tick studio key mask).1.plugins, P q.memory := by
  rw [plugins_tick]
  by_cases loaded : c.plugins = []
  · rwa [compose_of_empty studio key mask loaded]
  · have decided : ∀ q ∈ (c.decided studio key mask).1.plugins, P q.memory := by
      intro q member
      obtain ⟨i, found⟩ := List.mem_iff_getElem?.mp member
      obtain ⟨old, here, same⟩ := memory_at (c.memories_decided studio key mask) found
      exact same ▸ all old (List.mem_of_getElem? here)
    rcases composed studio key mask h loaded with ⟨fault, -, same, -⟩ | ⟨-, redrawn⟩
    · rwa [same]
    · have evolved := decided_evolves studio key mask h loaded
      exact redrawn.remembers (evolved.behaviours (P := (·.Remembers P)) keeps) decided

/-- What redraws keep true of a memory is true in every run. -/
theorem Reachable.remembers (h : Reachable plugins c) (orderly : ∀ p ∈ plugins, p.Orderly)
    (keeps : ∀ p ∈ plugins, p.behaviour.Remembers P) (all : ∀ p ∈ plugins, P p.memory) :
    ∀ q ∈ c.plugins, P q.memory := by
  induction h with
  | start setting studio =>
    intro q member
    obtain ⟨p, given, found, after, made⟩ := setUp_of_load member
    have memory := p.memory_setUp setting found
    rw [made] at memory
    exact memory ▸ all p given
  | @move c m before ih =>
    have sound := before.sound orderly
    have later := before.behaviours (P := (·.Remembers P)) orderly keeps
    cases m with
    | tick studio key mask => exact remembers_tick sound later ih
    | forceNext =>
      obtain ⟨ticks, forced⟩ := c.forceNext_eq
      change ∀ q ∈ c.forceNext.plugins, P q.memory
      rwa [forced]

end Run

end Carousel

end LcdCompositor
