import LcdCompositor.Proofs.Carousel.Run

/-!
# What is on display after a tick

A tick that comes to its end hands out a whole report. It is dark when nothing can be shown:
without plugins, with none enabled, or when the plugin on display fails to redraw. Otherwise
it is the frame on display, made into a report in this very tick. Nothing else that can go
wrong in a tick ever does. A tick that ends early, because the machine stops in the redraw,
leaves the report of the tick before.
-/

namespace LcdCompositor.Carousel

variable {σ : Type}

section Dark

variable (c : Carousel σ) (studio : Studio) (key : String) (mask : UInt64)

/-- What interrupts the redraw in a tick. Nothing does in a tick that ends before its redraw. -/
def redrawEnd : Option Interruption :=
  match c.decided studio key mask with
  | (_, _, some _) => none
  | (d, studio, none) => d.active.bind fun p => (p.refresh studio).2.2

/-- There is nothing to show in a tick. -/
def Dark : Prop :=
  c.plugins = [] ∨ c.hasEnabled mask = false ∨
    ∃ fault, c.redrawEnd studio key mask = some (.fault fault)

/-- A tick hands out no image without plugins, and whenever it is interrupted. -/
def Blanked : Prop := c.plugins = [] ∨ (c.compose studio key mask).2.2.isSome

variable {c}

theorem redrawEnd_eq (done : (c.decided studio key mask).2.2 = none) :
    c.redrawEnd studio key mask = (c.decided studio key mask).1.active.bind fun p =>
      (p.refresh (c.decided studio key mask).2.1).2.2 := by
  rw [redrawEnd]
  generalize c.decided studio key mask = decision at done ⊢
  obtain ⟨d, after, fault⟩ := decision
  cases done
  rfl

/-- What interrupts a whole tick: that nothing is enabled, or what interrupts the redraw. -/
theorem compose_interruption (h : c.Sound) (loaded : c.plugins ≠ []) :
    (c.compose studio key mask).2.2 =
      if c.hasEnabled mask then c.redrawEnd studio key mask
      else some (.fault (.allDisabled mask)) := by
  have decision := decided_fault studio key mask h loaded
  rcases composed studio key mask h loaded with ⟨fault, failed, _, same⟩ | ⟨done, redrawn⟩
  · cases enabled : c.hasEnabled mask with
    | false =>
      rw [failed, enabled] at decision
      cases decision
      exact same
    | true =>
      rw [failed, enabled] at decision
      cases decision
  · have enabled : c.hasEnabled mask = true := by
      by_contra nothing
      rw [done, if_neg nothing] at decision
      cases decision
    rw [if_pos enabled, redrawEnd_eq studio key mask done]
    generalize (c.compose studio key mask).1 = after at redrawn
    generalize (c.compose studio key mask).2.2 = interruption at redrawn ⊢
    cases redrawn with
    | breaks found interrupted => rw [found, Option.bind_some, interrupted]
    | shows found redone => rw [found, Option.bind_some, redone]

/-- The machine stops in a tick exactly if a plugin is enabled and it stops in the redraw. -/
theorem stop_tick_iff_redraw (h : c.Sound) {stop : Stop} :
    (c.tick studio key mask).2.2 = some stop ↔
      c.hasEnabled mask = true ∧ c.redrawEnd studio key mask = some (.stop stop) := by
  rw [stop_tick_iff]
  by_cases loaded : c.plugins = []
  · have nothing : c.hasEnabled mask = false := by rw [hasEnabled, loaded, List.any_nil]
    rw [compose_of_empty studio key mask loaded, nothing]
    simp
  · rw [compose_interruption studio key mask h loaded]
    cases c.hasEnabled mask <;> simp

/-- A tick in which nothing is enabled comes to its end. -/
theorem ended_of_nothing (h : c.Sound) (nothing : c.hasEnabled mask = false) :
    (c.tick studio key mask).2.2 = none := by
  cases stopped : (c.tick studio key mask).2.2 with
  | none => rfl
  | some stop =>
    rw [stop_tick_iff_redraw studio key mask h, nothing] at stopped
    cases stopped.1

/-- A tick that comes to its end blanks its report exactly when there is nothing to show. -/
theorem blanked_iff_dark (h : c.Sound) (ended : (c.tick studio key mask).2.2 = none) :
    c.Blanked studio key mask ↔ c.Dark studio key mask := by
  rw [Blanked, Dark]
  by_cases loaded : c.plugins = []
  · exact ⟨fun _ => .inl loaded, fun _ => .inl loaded⟩
  · rw [compose_interruption studio key mask h loaded]
    cases enabled : c.hasEnabled mask with
    | false => simp
    | true =>
      rcases result : c.redrawEnd studio key mask with _ | fault | stop
      · simp [loaded]
      · simp
      · rw [(stop_tick_iff_redraw studio key mask h).mpr ⟨enabled, result⟩] at ended
        cases ended

/-- The report of a blanked tick is dark. -/
theorem report_of_blanked (h : c.Sound) (ended : (c.tick studio key mask).2.2 = none)
    (blanked : c.Blanked studio key mask) :
    (c.tick studio key mask).1.report = Report.header ++ Report.darkImage := by
  have length := length_report_compose studio key mask h
  rcases blanked with empty | interrupted
  · rw [tick_eq, compose_of_empty studio key mask empty]
    dsimp only
    rw [settled, h.report, Report.stampHeader_blank]
  · obtain ⟨fault | stop, result⟩ := Option.isSome_iff_exists.mp interrupted
    · rw [tick_eq, result, settled, length, Report.stampHeader_blank]
    · rw [(stop_tick_iff c studio key mask).mpr result] at ended
      cases ended

/-- A tick that is not blanked shows the frame on display. -/
theorem report_of_shown (h : c.Sound) (shown : ¬ c.Blanked studio key mask) :
    ∃ frame, (c.tick studio key mask).1.frame = some frame ∧ frame.size = Panel.size ∧
      (c.tick studio key mask).1.report = Report.header ++ frame.columnBytes := by
  obtain ⟨loaded, done⟩ := not_or.mp shown
  rw [Option.not_isSome_iff_eq_none] at done
  rw [tick_eq, done, settled]
  rcases composed studio key mask h loaded with ⟨fault, _, _, same⟩ | ⟨_, redrawn⟩
  · rw [done] at same
    cases same
  · rw [done] at redrawn
    generalize (c.compose studio key mask).1 = after at redrawn ⊢
    cases redrawn with
    | @shows p frame found _ shown size =>
      exact ⟨frame, frame_redisplayed found shown, size,
        Report.stampHeader_append Report.length_header⟩

/-- A tick in which the machine stops leaves the report as it was. -/
theorem report_of_stop (h : c.Sound) {stop : Stop}
    (stopped : (c.tick studio key mask).2.2 = some stop) :
    (c.tick studio key mask).1.report = c.report := by
  have enabled := ((stop_tick_iff_redraw studio key mask h).mp stopped).1
  have loaded := plugins_ne_nil_of_hasEnabled enabled
  have redrawn := redrawn_of_done studio key mask h loaded (decided_done studio key mask h enabled)
  have before : (c.decided studio key mask).1.report = c.report :=
    (decided_turned studio key mask h loaded).report.trans (c.report_pressed studio key)
  rw [stop_tick_iff] at stopped
  rw [stopped] at redrawn
  rw [tick_eq, stopped, settled, ← before]
  generalize (c.compose studio key mask).1 = after at redrawn ⊢
  cases redrawn with
  | breaks => rfl

/-- Redraws that never fail leave a tick nothing to fail by but its mask. -/
theorem redrawEnd_of_unfailing (h : c.Sound) (loaded : c.plugins ≠ [])
    (unfailing : ∀ p ∈ c.plugins, p.behaviour.Unfailing) (fault : Fault) :
    c.redrawEnd studio key mask ≠ some (.fault fault) := by
  cases result : (c.decided studio key mask).2.2 with
  | some fault =>
    rw [redrawEnd]
    generalize c.decided studio key mask = decision at result ⊢
    obtain ⟨d, after, other⟩ := decision
    cases result
    exact Option.some_ne_none _ ∘ Eq.symm
  | none =>
    rw [redrawEnd_eq studio key mask result]
    intro failed
    obtain ⟨p, found, failed⟩ := Option.bind_eq_some_iff.mp failed
    have later := (decided_evolves studio key mask h loaded).behaviours unfailing
    exact later p (mem_of_active found) p.memory _ fault failed

/-- With such plugins there is nothing to show only if none is enabled. -/
theorem dark_iff_of_unfailing (h : c.Sound)
    (unfailing : ∀ p ∈ c.plugins, p.behaviour.Unfailing) :
    c.Dark studio key mask ↔ c.hasEnabled mask = false := by
  rw [Dark]
  by_cases loaded : c.plugins = []
  · have nothing : c.hasEnabled mask = false := by rw [hasEnabled, loaded, List.any_nil]
    exact ⟨fun _ => nothing, fun _ => .inl loaded⟩
  · have shown := redrawEnd_of_unfailing studio key mask h loaded unfailing
    simp [loaded, shown]

end Dark

end LcdCompositor.Carousel
