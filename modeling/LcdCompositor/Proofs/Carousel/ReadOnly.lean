import LcdCompositor.Proofs.Carousel.Run
import LcdCompositor.Proofs.Font.History
import LcdCompositor.Proofs.Plugin.ReadOnly

/-!
# A carousel changes no file

Of all that a carousel does only its plugins get the studio into their hands: when they
are set up, and when the one on display is redrawn. Everything else that it does there is to
report. So what the plugins leave as it is comes out of every tick as it went in, as long as
the log does not count among it: the files, and the sheets to be had.
-/

namespace LcdCompositor.Carousel

variable {σ α : Type} {c : Carousel σ} {plugins : List (Plugin σ)} {view : Studio → α}

section Load

theorem view_load (blind : ∀ s t : Studio, s.Alike t → view s = view t)
    (keep : ∀ p ∈ plugins, p.behaviour.Keeps view) (setting : Setting) (studio : Studio) :
    view (load setting studio plugins).2 = view studio := by
  induction plugins generalizing studio with
  | nil => rfl
  | cons p rest ih =>
    obtain ⟨first, others⟩ := List.forall_mem_cons.mp keep
    have built := Plugin.view_setUp first setting studio
    rw [load]
    split <;> next result =>
      rw [result] at built
      exact ((ih others _).trans (blind _ _ (.report ..))).trans built

theorem view_start (blind : ∀ s t : Studio, s.Alike t → view s = view t)
    (keep : ∀ p ∈ plugins, p.behaviour.Keeps view) (setting : Setting) (studio : Studio) :
    view (Carousel.start setting studio plugins).2 = view studio := by
  rw [Carousel.start]
  dsimp only
  split
  · exact (blind _ _ (.report ..)).trans (view_load blind keep setting studio)
  · exact view_load blind keep setting studio

end Load

section Tick

variable (c) (studio : Studio) (key : String) (mask : UInt64)

/-- The key is reported, and nothing else of the studio changes. -/
theorem alike_handleKey : (c.handleKey studio key).2.Alike studio := by
  rw [handleKey]
  split
  · split <;> exact .report ..
  · exact ⟨rfl, rfl⟩

theorem alike_turn : (c.turn studio mask).2.1.Alike studio := by
  have rotated (d : Carousel σ) : (d.rotate studio mask).2.1.Alike studio := by
    rw [rotate]
    split <;> exact ⟨rfl, rfl⟩
  rw [turn]
  split
  · exact ⟨rfl, rfl⟩
  · split
    · exact rotated _
    · split
      · split
        · exact ⟨rfl, rfl⟩
        · exact rotated c
      · exact ⟨rfl, rfl⟩

/-- A decision leaves the files and the fonts alone. -/
theorem alike_decided : (c.decided studio key mask).2.1.Alike studio := by
  rw [decided_eq]
  exact (alike_turn ..).trans (alike_handleKey ..)

variable {c}

theorem view_redraw (blind : ∀ s t : Studio, s.Alike t → view s = view t)
    (keep : ∀ p ∈ c.plugins, p.behaviour.Keeps view) :
    view (c.redraw studio).2.1 = view studio := by
  rw [redraw]
  split
  · rfl
  next p found =>
    have redrawn := Plugin.view_refresh (keep p (mem_of_active found)) studio
    split
    next q after interruption result => rwa [result] at redrawn
    next q after result =>
      rw [result] at redrawn
      exact (blind _ _ (Scene.alike_padlock ..)).trans redrawn

/-- What the plugins leave as it is, a tick leaves as it is. -/
theorem view_tick (blind : ∀ s t : Studio, s.Alike t → view s = view t) (sound : c.Sound)
    (keep : ∀ p ∈ c.plugins, p.behaviour.Keeps view) :
    view (c.tick studio key mask).2.1 = view studio := by
  have composed : view (c.compose studio key mask).2.1 = view studio := by
    by_cases loaded : c.plugins = []
    · rw [compose_of_empty studio key mask loaded]
    · have later := (decided_evolves studio key mask sound loaded).behaviours
        (P := (·.Keeps view)) keep
      have decision := blind _ _ (c.alike_decided studio key mask)
      rw [compose_eq loaded]
      split
      next d after fault result => rwa [result] at decision
      next d after result =>
        rw [result] at decision later
        exact (view_redraw after blind later).trans decision
  rw [tick]
  split
  next d after result => rwa [result] at composed
  next d after fault result =>
    rw [result] at composed
    exact (blind _ _ (.report ..)).trans composed
  next d after stop result => rwa [result] at composed

end Tick

end LcdCompositor.Carousel
