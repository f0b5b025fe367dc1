import LcdCompositor.Proofs.Carousel.Loading
import LcdCompositor.Proofs.Carousel.Monitor

/-!
# What a tick hands out

A tick that comes to its end hands out a header and an image: a dark one when there is nothing
to show, and else the frame on display. One that does not has been ended by the machine in the
redraw. Of the built-in plugins only the monitor can bring that about, with a rate that no place
is found for, and nothing but the mask blanks a tick of theirs.
-/

namespace LcdCompositor.Carousel

variable {σ : Type} {c : Carousel σ} {studio : Studio} {key : String} {mask : UInt64}

/-- A tick that comes to its end hands out a header and an image that is dark when there is
nothing to show, and else the frame on display. -/
theorem image_of_ended (h : c.Sound) (ended : (c.tick studio key mask).2.2 = none) :
    ∃ image, (c.tick studio key mask).1.report = Report.header ++ image ∧
      (c.Dark studio key mask → image = Report.darkImage) ∧
      (¬ c.Dark studio key mask → ∃ frame, (c.tick studio key mask).1.frame = some frame ∧
        frame.size = Panel.size ∧ image = frame.columnBytes) := by
  have blanked := blanked_iff_dark studio key mask h ended
  by_cases dark : c.Dark studio key mask
  · exact ⟨_, report_of_blanked studio key mask h ended (blanked.mpr dark), fun _ => rfl,
      fun lit => absurd dark lit⟩
  · obtain ⟨frame, onShow, size, report⟩ := report_of_shown studio key mask h (mt blanked.mp dark)
    exact ⟨_, report, fun nothing => absurd nothing dark, fun _ => ⟨frame, onShow, size, rfl⟩⟩

section Builtin

open SystemMonitor

variable {feed : SensorFeed} {c : Carousel SensorFeed}

/-- Over the built-in plugins there is nothing to show only if the mask enables none. -/
theorem dark_iff_of_builtin (reachable : Reachable (builtinPlugins feed) c) (studio : Studio)
    (key : String) (mask : UInt64) : c.Dark studio key mask ↔ c.hasEnabled mask = false :=
  dark_iff_of_unfailing studio key mask (reachable.sound (builtinPlugins_orderly feed))
    (reachable.behaviours (builtinPlugins_orderly feed) (builtinPlugins_unfailing feed))

/-- Readings with rates of at most 13106 characters never stop the machine. -/
theorem ended_of_short (reachable : Reachable (builtinPlugins feed) c)
    (genuine : studio.fonts.Genuine)
    (short : ∀ p ∈ c.plugins, p.memory.sample.1.transmitRate.toList.length ≤ 13106) :
    (c.tick studio key mask).2.2 = none := by
  by_contra stopped
  obtain ⟨stop, stopped⟩ := Option.ne_none_iff_exists'.mp stopped
  obtain ⟨-, q, old, -, -, here, wide⟩ := (stop_tick_iff_monitor reachable).mp stopped
  have long := (rateStop_ne_none_iff (Studio.genuine_answers genuine) old.memory.sample.1).mp
    (Option.ne_none_iff_exists'.mpr ⟨stop, wide⟩)
  exact Nat.not_le_of_gt long.2 (short old (List.mem_of_getElem? here))

/-- The built-in plugins of a run are all of them, or all but the splash screen. -/
theorem roll_builtin (reachable : Reachable (builtinPlugins feed) c) :
    c.roll = (builtinPlugins feed).map Plugin.kind ∨
      c.roll = [plugin feed, EndCard.plugin feed].map Plugin.kind := by
  induction reachable with
  | start setting studio =>
    by_cases accepted : Splash.Accepted studio.files setting.dataDirectory
    · exact .inl (roll_of_accepted feed accepted)
    · exact .inr (roll_of_refused feed accepted)
  | move m before ih =>
    rwa [(evolves_move m (before.sound (builtinPlugins_orderly feed))).roll]

/-- The id of the monitor as a mask enables the monitor and nobody else. -/
theorem enabledBy_monitor (reachable : Reachable (builtinPlugins feed) c) :
    c.hasEnabled identity.id = true ∧
      ∀ p ∈ c.plugins, p.enabledBy identity.id = true → IsMonitor p := by
  have roll := roll_builtin reachable
  constructor
  · have member : (plugin feed).kind ∈ c.roll := by
      rcases roll with all | some
      · exact all ▸ List.mem_map_of_mem (.tail _ (.head _))
      · exact some ▸ List.mem_map_of_mem (.head _)
    obtain ⟨p, loaded, kind⟩ := List.mem_map.mp member
    have who : p.screen.identity = identity := congrArg (·.2.1) kind
    refine List.any_eq_true.mpr ⟨p, loaded, ?_⟩
    rw [Plugin.enabledBy, Screen.enabledBy, who]
    decide
  · intro p loaded enabled
    have member : p.kind ∈ (builtinPlugins feed).map Plugin.kind := by
      have here : p.kind ∈ c.roll := List.mem_map_of_mem loaded
      rcases roll with all | some
      · exact all ▸ here
      · exact .tail _ (some ▸ here)
    obtain ⟨q, given, kind⟩ := List.mem_map.mp member
    have behaviour : q.behaviour = p.behaviour := congrArg (·.1) kind
    have who : q.screen.identity = p.screen.identity := congrArg (·.2.1) kind
    rw [Plugin.enabledBy, Screen.enabledBy, ← who] at enabled
    simp only [builtinPlugins, List.mem_cons, List.not_mem_nil, or_false] at given
    rcases given with rfl | rfl | rfl
    · change (Splash.identity.id &&& identity.id != 0) = true at enabled
      exact absurd enabled (by decide)
    · exact behaviour.symm
    · change (EndCard.identity.id &&& identity.id != 0) = true at enabled
      exact absurd enabled (by decide)

end Builtin

section Outcome

open SystemMonitor

/-- Whatever has happened before, a tick that comes to its end hands out a header and an image.
The image is dark when there is nothing to show, and else the frame on display as the panel
wants it. A tick does not come to its end exactly if a plugin is enabled in whose redraw the
machine stops, and the report is then the one of the tick before. Over the built-in plugins
nothing but the mask ever blanks a tick, and nothing but a monitor that finds no place for its
rates stops the machine. Rates of at most 13106 characters always find one. -/
theorem tick_report (studio : Studio) (key : String) (mask : UInt64) :
    (∀ {σ : Type} {plugins : List (Plugin σ)} {c : Carousel σ},
      (∀ p ∈ plugins, p.Orderly) → Reachable plugins c →
      let after := c.tick studio key mask
      after.1.report.length = 992 ∧
      (after.2.2 = none → ∃ image : List UInt8,
        after.1.report = 3 :: List.replicate 31 0 ++ image ∧
        (c.Blanked studio key mask ↔ c.Dark studio key mask) ∧
        (c.Dark studio key mask → image = List.replicate 960 0) ∧
        (¬ c.Dark studio key mask → ∃ frame, after.1.frame = some frame ∧
          ∀ destination, destination.length = 960 →
            Report.transcode destination frame = .ok image)) ∧
      ∀ stop, (after.2.2 = some stop ↔ c.hasEnabled mask = true ∧
          c.redrawEnd studio key mask = some (.stop stop)) ∧
        (after.2.2 = some stop → after.1.report = c.report)) ∧
    (∀ {feed : SensorFeed} {c : Carousel SensorFeed}, Reachable (builtinPlugins feed) c →
      let after := c.tick studio key mask
      (after.2.2 = none → (c.Blanked studio key mask ↔ c.hasEnabled mask = false)) ∧
      (∀ stop, after.2.2 = some stop ↔ c.hasEnabled mask = true ∧
        ∃ q old, after.1.active = some q ∧ IsMonitor q ∧
          c.plugins[after.1.current]? = some old ∧
          rateStop studio.answers old.memory.sample.1 = some stop) ∧
      (studio.fonts.Genuine →
        (∀ p ∈ c.plugins, p.memory.sample.1.transmitRate.toList.length ≤ 13106) →
          after.2.2 = none)) := by
  constructor
  · intro σ plugins c orderly reachable after
    have sound := reachable.sound orderly
    refine ⟨(sound.tick studio key mask).report, ?ended, fun stop =>
      ⟨stop_tick_iff_redraw studio key mask sound, report_of_stop studio key mask sound⟩⟩
    case ended =>
      intro ended
      obtain ⟨image, report, dark, lit⟩ := image_of_ended sound ended
      refine ⟨image, report, blanked_iff_dark studio key mask sound ended, dark, fun some => ?_⟩
      obtain ⟨frame, onShow, size, rfl⟩ := lit some
      exact ⟨frame, onShow, fun destination room => Report.transcode_eq room size⟩
  · intro feed c reachable after
    have sound := reachable.sound (builtinPlugins_orderly feed)
    refine ⟨fun ended => ?_, fun stop => stop_tick_iff_monitor reachable, ended_of_short reachable⟩
    rw [blanked_iff_dark studio key mask sound ended, dark_iff_of_builtin reachable]

/-- The second plugin has come in and fails to redraw: a dark report. And the built-in
plugins stay dark for a mask without any bits. -/
theorem tick_report_trio :
    ((∀ p ∈ trio, p.Orderly) ∧ Reachable trio (trioAfter [.tick default "" 7]) ∧
      ((trioAfter [.tick default "" 7]).tick default "L2" 7).1.report =
        3 :: List.replicate 31 0 ++ List.replicate 960 0) ∧
      (start ⟨"", ""⟩ default (builtinPlugins ⟨[]⟩)).1.Blanked default "" 0 := by
  constructor
  · have failed : (trioAfter [.tick default "" 7]).redrawEnd default "L2" 7 =
        some (.fault .trailingData) := by decide +kernel
    obtain ⟨-, ended, -⟩ :=
      (tick_report default "L2" 7).1 trio_orderly (reachable_trioAfter [.tick default "" 7])
    obtain ⟨image, report, -, dark, -⟩ := ended (by decide +kernel)
    refine ⟨trio_orderly, reachable_trioAfter _, ?_⟩
    rw [report, dark (.inr (.inr ⟨_, failed⟩))]
  · have nothing : (start ⟨"", ""⟩ default (builtinPlugins ⟨[]⟩)).1.hasEnabled 0 = false := by
      simp [hasEnabled, Plugin.enabledBy, Screen.enabledBy]
    have sound := sound_start (builtinPlugins_orderly ⟨[]⟩) ⟨"", ""⟩ default
    obtain ⟨blanked, -⟩ := (tick_report default "" 0).2 (.start ⟨"", ""⟩ default)
    exact (blanked (ended_of_nothing default "" 0 sound nothing)).mpr nothing

/-- A monitor alone with a rate of 13107 letters: it is enabled, and the machine stops. -/
theorem tick_report_stopped :
    let c := (start ⟨"", ""⟩ darkStudio (solo (letters 13107))).1
    Reachable (solo (letters 13107)) c ∧ c.hasEnabled 2 = true ∧
      (c.tick darkStudio "" 2).2.2 = some (.overflow 65538) := by
  intro c
  have enabled : c.hasEnabled 2 = true := by decide +kernel
  have reachable : Reachable (solo (letters 13107)) c := .start ⟨"", ""⟩ darkStudio
  have late := reachable.tick darkStudio "" 2
  have sound := reachable.sound (solo_orderly _)
  obtain ⟨q, onShow, -⟩ := exists_active_of_solo late
    ((evolves_tick _ _ _ sound).plugins_ne_nil (plugins_ne_nil_of_hasEnabled enabled))
  obtain ⟨old, frame, here, -, ending, -⟩ := portrait_tick sound enabled onShow
    (isMonitor_of_solo late q (mem_of_active onShow))
  have memory : old.memory = letters 13107 :=
    memory_of_solo reachable old (List.mem_of_getElem? here)
  rw [memory, rateStop_letters (by decide)] at ending
  exact ⟨reachable, enabled, ending⟩

end Outcome

end LcdCompositor.Carousel
