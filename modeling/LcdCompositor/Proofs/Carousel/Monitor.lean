import LcdCompositor.Proofs.Carousel.Display
import LcdCompositor.Proofs.Carousel.Memory
import LcdCompositor.Proofs.Carousel.ReadOnly
import LcdCompositor.Proofs.Drawing.Padlock
import LcdCompositor.Proofs.Plugin.Monitor

/-!
# The monitor on display

A tick decides what is on display without the plugins noticing: their memories stay, and of
the studio only the log grows. So a monitor that is redrawn in a tick takes the reading that
was next before the tick, in the fonts of that moment, and its frame is the portrait of this
reading under the padlock. Where the machine stops in the redraw, the frame is the portrait as
far as it has come. What the frame held before, and how the carousel came to where it was,
leaves no pixel.
-/

namespace LcdCompositor.Carousel

variable {studio : Studio} {key : String} {mask : UInt64}

section Redraw

open SystemMonitor

variable {c d : Carousel SensorFeed} {q : Plugin SensorFeed} {interruption : Option Interruption}

/-- A frame with the portrait of a reading under the padlock, to which a machine that has stopped
does not get. -/
structure Portrays (fonts : Font → Option GlyphSheet) (reading : Snapshot) (rows : List UInt8)
    (frame : Bitmap) : Prop where
  padlocked : rateStop fonts reading = none →
    Drawing.padlock (portrait fonts reading) rows Padlock.column Padlock.row = .ok frame
  bare : rateStop fonts reading ≠ none → frame = portrait fonts reading

/-- The redraw of a monitor under the padlock. -/
theorem overlaid_portrait {p : Plugin SensorFeed} (monitor : IsMonitor p) (ready : p.Ready)
    (c : Carousel SensorFeed) (studio : Studio) :
    ∃ frame, (c.overlaid p studio).picture .current = .ok frame ∧
      Drawing.padlock (portrait studio.answers p.memory.sample.1)
        (Padlock.rows c.locked (c.overlaid p studio).everLocked) Padlock.column Padlock.row =
          .ok frame := by
  obtain ⟨-, refreshed⟩ := plugin_refresh_shows monitor ready.showable studio
  have padlocked := refreshed.padlock c.locked Padlock.column Padlock.row
  have evolved := (Plugin.refresh_evolves ready.behaviour studio).ready ready
  obtain ⟨old, found, size⟩ := evolved.showable.picture
  obtain rfl := Except.ok.inj (found.symm.trans refreshed.picture)
  obtain ⟨frame, drawn, -⟩ :=
    Drawing.padlock_of_panel size c.locked (c.overlaid p studio).everLocked
  rw [Drawing.attempt, ← overlaid, drawn] at padlocked
  exact ⟨frame, padlocked.picture, drawn⟩

/-- What a redrawn monitor leaves is the portrait of its reading, and only the machine can
interrupt it. -/
theorem Redrawn.portrait (h : Redrawn c studio d interruption)
    (ready : ∀ p ∈ c.plugins, p.Ready) (onShow : d.active = some q) (monitor : IsMonitor q) :
    ∃ p frame, c.active = some p ∧ d.frame = some frame ∧
      interruption = (rateStop studio.answers p.memory.sample.1).map .stop ∧
      Portrays studio.answers p.memory.sample.1 (Padlock.rows c.locked q.screen.everLocked)
        frame := by
  cases h with
  | @breaks p interruption found interrupted =>
    cases (active_onActive _ found).symm.trans onShow
    have same : IsMonitor p := monitor
    obtain ⟨ending, drawn⟩ :=
      plugin_refresh_shows same (ready p (mem_of_active found)).showable studio
    have stopped : rateStop studio.answers p.memory.sample.1 ≠ none := by
      intro room
      rw [interrupted, room] at ending
      cases ending
    have shown : Carousel.frame (c.onActive fun _ => (p.refresh studio).1) =
        some (SystemMonitor.portrait studio.answers p.memory.sample.1) := by
      rw [Carousel.frame, active_onActive _ found, Option.bind_some, drawn.picture]
      rfl
    exact ⟨p, _, found, shown, interrupted.symm.trans ending,
      fun room => absurd room stopped, fun _ => rfl⟩
  | @shows p frame found done shown size =>
    cases (active_onActive _ found).symm.trans onShow
    have same : IsMonitor p := monitor
    have isReady := ready p (mem_of_active found)
    have ending := (plugin_refresh_shows same isReady.showable studio).1
    have room : rateStop studio.answers p.memory.sample.1 = none := by
      rwa [done, eq_comm, Option.map_eq_none_iff] at ending
    obtain ⟨frame', shown', drawn⟩ := overlaid_portrait same isReady c studio
    exact ⟨p, frame', found, frame_redisplayed found shown', done.symm.trans ending,
      fun _ => drawn, fun stopped => absurd room stopped⟩

/-- After a tick with an enabled plugin a monitor on display shows the portrait of the reading
that was next before the tick, in the fonts of that moment. The machine has stopped in the tick
if it does not get through this reading. -/
theorem portrait_tick (h : c.Sound) (enabled : c.hasEnabled mask = true)
    (onShow : (c.tick studio key mask).1.active = some q) (monitor : IsMonitor q) :
    ∃ old frame, c.plugins[(c.tick studio key mask).1.current]? = some old ∧
      (c.tick studio key mask).1.frame = some frame ∧
      (c.tick studio key mask).2.2 = rateStop studio.answers old.memory.sample.1 ∧
      Portrays studio.answers old.memory.sample.1
        (Padlock.rows (c.tick studio key mask).1.locked q.screen.everLocked) frame := by
  have loaded := plugins_ne_nil_of_hasEnabled enabled
  have redrawn := redrawn_of_done studio key mask h loaded (decided_done studio key mask h enabled)
  rw [active_tick] at onShow
  obtain ⟨p, frame, found, shown, ending, drawn⟩ :=
    redrawn.portrait (h.decided studio key mask loaded).ready onShow monitor
  obtain ⟨old, here, memory⟩ := memory_at (c.memories_decided studio key mask) found
  rw [(c.alike_decided studio key mask).answers, ← memory] at drawn ending
  rw [current_tick studio key mask loaded, locked_tick studio key mask loaded, Carousel.frame,
    active_tick]
  refine ⟨old, frame, here, shown, Option.ext fun stop => ?_, drawn⟩
  rw [c.stop_tick_iff studio key mask, ending]
  simp

/-- A behaviour that is the monitor's, or whose redraws always come to their end. -/
def MonitorAtMost (b : Behaviour SensorFeed) : Prop :=
  b = ⟨setUp, refresh⟩ ∨ ∀ memory scene, (b.refresh memory scene).interruption = none

/-- Of the built-in plugins only the monitor can be interrupted. -/
theorem builtinPlugins_monitorAtMost (feed : SensorFeed) :
    ∀ p ∈ builtinPlugins feed, MonitorAtMost p.behaviour := by
  intro p member
  simp only [builtinPlugins, List.mem_cons, List.not_mem_nil, or_false] at member
  rcases member with rfl | rfl | rfl
  · exact .inr fun _ _ => rfl
  · exact .inl rfl
  · exact .inr fun _ _ => rfl

/-- Over the built-in plugins the machine stops in a tick exactly if one is enabled and a monitor
has come on display that finds no place for the rates of its reading. -/
theorem stop_tick_iff_monitor {feed : SensorFeed} (reachable : Reachable (builtinPlugins feed) c)
    {stop : Stop} :
    (c.tick studio key mask).2.2 = some stop ↔ c.hasEnabled mask = true ∧
      ∃ q old, (c.tick studio key mask).1.active = some q ∧ IsMonitor q ∧
        c.plugins[(c.tick studio key mask).1.current]? = some old ∧
        rateStop studio.answers old.memory.sample.1 = some stop := by
  have orderly := builtinPlugins_orderly feed
  have sound := reachable.sound orderly
  constructor
  · intro stopped
    have enabled := ((stop_tick_iff_redraw studio key mask sound).mp stopped).1
    have loaded := plugins_ne_nil_of_hasEnabled enabled
    have redrawn :=
      redrawn_of_done studio key mask sound loaded (decided_done studio key mask sound enabled)
    have behaviours := (decided_evolves studio key mask sound loaded).behaviours
      (reachable.behaviours orderly (builtinPlugins_monitorAtMost feed))
    have onShow := c.active_tick studio key mask
    rw [c.stop_tick_iff studio key mask] at stopped
    rw [stopped] at redrawn
    generalize (c.compose studio key mask).1 = after at redrawn onShow
    cases redrawn with
    | @breaks p _ found interrupted =>
      rw [active_onActive _ found] at onShow
      rcases behaviours p (mem_of_active found) with monitor | never
      · obtain ⟨old, frame, here, -, ending, -⟩ := portrait_tick sound enabled onShow monitor
        rw [(c.stop_tick_iff studio key mask).mpr stopped] at ending
        exact ⟨enabled, _, old, onShow, monitor, here, ending.symm⟩
      · cases interrupted.symm.trans (never p.memory _)
  · rintro ⟨enabled, q, old, onShow, monitor, here, wide⟩
    obtain ⟨other, frame, found, -, ending, -⟩ := portrait_tick sound enabled onShow monitor
    cases here.symm.trans found
    exact ending.trans wide

/-- The only reading of a feed is there for ever. -/
theorem remembers_single (reading : Snapshot) :
    Behaviour.Remembers ⟨setUp, refresh⟩ (· = ⟨[reading]⟩) := by
  rintro memory scene rfl
  dsimp only
  rw [refresh_eq]
  rfl

theorem builtinPlugins_remember (reading : Snapshot) :
    ∀ p ∈ builtinPlugins ⟨[reading]⟩, p.behaviour.Remembers (· = ⟨[reading]⟩) := by
  intro p member
  simp only [builtinPlugins, List.mem_cons, List.not_mem_nil, or_false] at member
  rcases member with rfl | rfl | rfl
  · exact fun _ _ same => same
  · exact remembers_single reading
  · exact fun _ _ same => same

theorem memory_of_builtin {reading : Snapshot}
    (reachable : Reachable (builtinPlugins ⟨[reading]⟩) c) :
    ∀ p ∈ c.plugins, p.memory = ⟨[reading]⟩ := by
  refine reachable.remembers (P := (· = ⟨[reading]⟩)) (builtinPlugins_orderly _)
    (builtinPlugins_remember reading) fun p member => ?_
  simp only [builtinPlugins, List.mem_cons, List.not_mem_nil, or_false] at member
  rcases member with rfl | rfl | rfl <;> rfl

end Redraw

section Portrait

open SystemMonitor

/-- A screen that a monitor can come to have: its own after any run of a carousel, and
whatever operations make of that. -/
def MonitorScreen (screen : Screen) : Prop :=
  ∃ (plugins : List (Plugin SensorFeed)) (c : Carousel SensorFeed) (p : Plugin SensorFeed),
    (∀ p ∈ plugins, p.Orderly) ∧ Reachable plugins c ∧ p ∈ c.plugins ∧ IsMonitor p ∧
      p.screen.Reaches screen

theorem MonitorScreen.showable {screen : Screen} (h : MonitorScreen screen) :
    screen.Showable := by
  obtain ⟨plugins, c, p, orderly, reachable, member, -, reached⟩ := h
  exact ((reachable.sound orderly).ready p member).showable.reaches reached

/-- A monitor that is redrawn shows a frame that its reading and the fonts alone decide, in every
state that a run brings it to. So whatever two monitors have been through, the same reading in
the same fonts makes their frames equal. Nothing interrupts the redraw but the sum of gap and
width: with sheets made for their fonts the machine stops there if and only if the rate that is
sent has a font and more than 13106 characters. A whole tick puts the padlock over the frame and
adds nothing else, and stops where the redraw does; a tick that redraws nothing, because nothing
is enabled, shows nothing. -/
theorem monitor_portrait (studio : Studio) :
    (∀ screen, MonitorScreen screen → ∀ feed : SensorFeed,
      let reading := feed.sample.1
      (refresh feed ⟨screen, studio⟩).interruption =
        (rateStop studio.answers reading).map .stop ∧
      (studio.fonts.Genuine → (rateStop studio.answers reading ≠ none ↔
        studio.answers .mono5x8 ≠ none ∧ 13106 < reading.transmitRate.toList.length)) ∧
      (refresh feed ⟨screen, studio⟩).scene.screen.picture .current =
        .ok (portrait studio.answers reading)) ∧
    (∀ one two, MonitorScreen one → MonitorScreen two →
      ∀ (feed feed' : SensorFeed) (studio' : Studio),
        feed.sample.1 = feed'.sample.1 → studio.answers = studio'.answers →
        (refresh feed ⟨one, studio⟩).scene.screen.picture .current =
          (refresh feed' ⟨two, studio'⟩).scene.screen.picture .current) ∧
    ∀ {plugins : List (Plugin SensorFeed)} {c : Carousel SensorFeed},
      (∀ p ∈ plugins, p.Orderly) → Reachable plugins c → ∀ (key : String) (mask : UInt64),
      let after := (c.tick studio key mask).1
      (c.hasEnabled mask = true → ∀ q, after.active = some q → IsMonitor q →
        ∃ old reading frame, c.plugins[after.current]? = some old ∧
          old.memory.sample.1 = reading ∧ after.frame = some frame ∧
          (c.tick studio key mask).2.2 = rateStop studio.answers reading ∧
          (rateStop studio.answers reading = none →
            Drawing.padlock (portrait studio.answers reading)
              (Padlock.rows after.locked q.screen.everLocked) Padlock.column Padlock.row =
                .ok frame) ∧
          (rateStop studio.answers reading ≠ none → frame = portrait studio.answers reading)) ∧
      (c.hasEnabled mask = false →
        after.report = 3 :: List.replicate 31 0 ++ List.replicate 960 0) := by
  refine ⟨?_, ?_, ?_⟩
  · intro screen monitor feed reading
    obtain ⟨ending, shown⟩ := refresh_shows ⟨screen, studio⟩ monitor.showable feed
    exact ⟨ending, fun genuine => rateStop_ne_none_iff (Studio.genuine_answers genuine) reading,
      shown.picture⟩
  · intro one two first second feed feed' studio' reading fonts
    have shown := (refresh_shows ⟨one, studio⟩ first.showable feed).2
    have shown' := (refresh_shows ⟨two, studio'⟩ second.showable feed').2
    dsimp only at shown shown'
    rw [shown.picture, shown'.picture, reading, fonts]
  · intro plugins c orderly reachable key mask after
    have sound := reachable.sound orderly
    constructor
    · intro enabled q onShow monitor
      obtain ⟨old, frame, here, shown, ending, drawn⟩ :=
        portrait_tick sound enabled onShow monitor
      exact ⟨old, _, frame, here, rfl, shown, ending, drawn.padlocked, drawn.bare⟩
    · intro nothing
      have ended := ended_of_nothing studio key mask sound nothing
      exact report_of_blanked studio key mask sound ended
        ((blanked_iff_dark studio key mask sound ended).mpr (.inr (.inl nothing)))

/-- A reading with something of everything. -/
def busy : Snapshot := ⟨"worker", 97, 80, "9MB/s", "12KB/s"⟩

/-- A monitor alone. -/
def solo (feed : SensorFeed) : List (Plugin SensorFeed) := [SystemMonitor.plugin feed]

section Solo

variable {feed : SensorFeed} {c : Carousel SensorFeed}

theorem solo_orderly (feed : SensorFeed) : ∀ p ∈ solo feed, p.Orderly := by
  intro p member
  obtain rfl := List.mem_singleton.mp member
  exact builtinPlugins_orderly feed _ (by simp [builtinPlugins])

theorem isMonitor_of_solo (reachable : Reachable (solo feed) c) : ∀ p ∈ c.plugins, IsMonitor p := by
  refine reachable.behaviours (P := fun b => b = ⟨setUp, refresh⟩) (solo_orderly feed)
    fun p member => ?_
  obtain rfl := List.mem_singleton.mp member
  rfl

theorem memory_of_solo {reading : Snapshot} (reachable : Reachable (solo ⟨[reading]⟩) c) :
    ∀ p ∈ c.plugins, p.memory = ⟨[reading]⟩ := by
  refine reachable.remembers (P := (· = ⟨[reading]⟩)) (solo_orderly _) ?keeps ?all
  case keeps =>
    intro p member
    obtain rfl := List.mem_singleton.mp member
    exact remembers_single reading
  case all =>
    intro p member
    obtain rfl := List.mem_singleton.mp member
    rfl

theorem exists_active_of_solo (reachable : Reachable (solo feed) c) (loaded : c.plugins ≠ []) :
    ∃ p, c.active = some p ∧ MonitorScreen p.screen := by
  obtain ⟨p, found, -⟩ := (reachable.sound (solo_orderly feed)).active loaded
  have member := mem_of_active found
  exact ⟨p, found, solo feed, c, p, solo_orderly feed, reachable, member,
    isMonitor_of_solo reachable p member, .refl _⟩

end Solo

/-- One monitor before and after a tick that closes the padlock over a busy reading. Its
frames differ, and the next reading makes them equal. -/
theorem monitor_portrait_solo :
    let before := (start ⟨"", ""⟩ default (solo ⟨[busy, .standard]⟩)).1
    let after := (before.tick default "L2" 2).1
    ∃ one two frame, before.active = some one ∧ after.active = some two ∧
      after.frame = some frame ∧ one.screen.picture .current ≠ two.screen.picture .current ∧
      (refresh ⟨[.standard]⟩ ⟨one.screen, default⟩).scene.screen.picture .current =
        (refresh ⟨[.standard]⟩ ⟨two.screen, default⟩).scene.screen.picture .current ∧
      Drawing.padlock (portrait (Studio.answers default) busy) Padlock.closed Padlock.column
        Padlock.row = .ok frame := by
  intro before after
  have enabled : before.hasEnabled 2 = true := by decide +kernel
  have loaded := plugins_ne_nil_of_hasEnabled enabled
  have early : Reachable (solo ⟨[busy, .standard]⟩) before := .start ⟨"", ""⟩ default
  have late : Reachable (solo ⟨[busy, .standard]⟩) after := early.tick default "L2" 2
  obtain ⟨one, found, monitor⟩ := exists_active_of_solo early loaded
  obtain ⟨two, found', monitor'⟩ := exists_active_of_solo late
    ((evolves_tick _ _ _ (early.sound (solo_orderly _))).plugins_ne_nil loaded)
  obtain ⟨old, reading, frame, here, rfl, shown, -, drawn, -⟩ :=
    ((monitor_portrait default).2.2 (solo_orderly _) early "L2" 2).1 enabled two found'
      (isMonitor_of_solo late two (mem_of_active found'))
  have memories : before.memories = [⟨[busy, .standard]⟩] := by decide +kernel
  have memory : old.memory = ⟨[busy, .standard]⟩ := by
    have member : old.memory ∈ before.memories := List.mem_map_of_mem (List.mem_of_getElem? here)
    rwa [memories, List.mem_singleton] at member
  have locked : after.locked = true := by
    rw [locked_tick default "L2" 2 loaded]
    decide +kernel
  have reading : (SensorFeed.mk [busy, .standard]).sample.1 = busy := rfl
  have room : rateStop (Studio.answers default) busy = none := by decide +kernel
  rw [memory, reading, locked, Padlock.rows, if_pos rfl] at drawn
  replace drawn := drawn room
  refine ⟨one, two, frame, found, found', shown, fun same => ?_,
    (monitor_portrait default).2.1 _ _ monitor monitor' _ _ _ rfl rfl, drawn⟩
  -- The first frame is dark, and the closed padlock is not.
  have dark : before.frame = some Bitmap.blankFrame := rfl
  have both : before.frame = after.frame := by
    rw [Carousel.frame, Carousel.frame, found, found', Option.bind_some, Option.bind_some, same]
  obtain rfl : Bitmap.blankFrame = frame := Option.some.inj (dark.symm.trans (both.trans shown))
  obtain ⟨drawn', again, stands⟩ :=
    Drawing.padlock_of_panel (Drawing.size_of_padlock drawn).symm true true
  obtain rfl := Except.ok.inj (again.symm.trans drawn)
  have lit := stands 1 (by decide) 0 (by decide)
  exact absurd lit (by decide +kernel)

/-- The machine stops in the redraw of a monitor with a rate of 13107 letters. -/
theorem monitor_portrait_stopped :
    ∃ screen, MonitorScreen screen ∧ darkStudio.fonts.Genuine ∧
      (refresh (letters 13107) ⟨screen, darkStudio⟩).interruption =
        some (.stop (.overflow 65538)) := by
  have early : Reachable (solo (letters 13107)) (start ⟨"", ""⟩ default (solo (letters 13107))).1 :=
    .start ⟨"", ""⟩ default
  obtain ⟨p, -, monitor⟩ := exists_active_of_solo early (List.cons_ne_nil _ _)
  refine ⟨p.screen, monitor, genuine_darkStudio, ?_⟩
  have ending := (refresh_shows ⟨p.screen, darkStudio⟩ monitor.showable (letters 13107)).1
  rw [ending, rateStop_letters (by decide)]
  rfl

end Portrait

end LcdCompositor.Carousel
