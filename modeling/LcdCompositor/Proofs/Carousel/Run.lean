import LcdCompositor.Proofs.Carousel.Turn
import LcdCompositor.Proofs.Report.Layout

/-!
# Runs of a carousel

A run starts with plugins being set up and goes on with ticks and forced rotations in
any order. Each tick names the studio that it finds, so whatever is done to the fonts
and files in between is covered. One invariant holds all along: the plugin on display
is on the list, every plugin can be shown, and the report has its length.
-/

namespace LcdCompositor.Carousel

variable {σ : Type} {c d : Carousel σ}

/-- Something that happens to a carousel. A tick comes with the studio it finds. -/
inductive Move
  | tick (studio : Studio) (key : String) (mask : UInt64)
  | forceNext

/-- A tick without the lock key, whose mask is as it should be. -/
def Move.Plain (fits : UInt64 → Prop) : Move → Prop
  | .tick _ key mask => key ≠ Panel.lockKey ∧ fits mask
  | .forceNext => False

def move (c : Carousel σ) : Move → Carousel σ
  | .tick studio key mask => (c.tick studio key mask).1
  | .forceNext => c.forceNext

/-- Several moves in order. -/
def run (c : Carousel σ) (moves : List Move) : Carousel σ := moves.foldl move c

@[simp] theorem run_nil (c : Carousel σ) : c.run [] = c := rfl

@[simp] theorem run_cons (c : Carousel σ) (m : Move) (moves : List Move) :
    c.run (m :: moves) = (c.move m).run moves := rfl

theorem run_append (c : Carousel σ) (first second : List Move) :
    c.run (first ++ second) = (c.run first).run second := List.foldl_append

/-- A carousel that some run over the given plugins leads to. -/
inductive Reachable (plugins : List (Plugin σ)) : Carousel σ → Prop
  | start (setting : Setting) (studio : Studio) :
      Reachable plugins (Carousel.start setting studio plugins).1
  | move {c : Carousel σ} (m : Move) : Reachable plugins c → Reachable plugins (c.move m)

theorem Reachable.tick {plugins : List (Plugin σ)} (h : Reachable plugins c) (studio : Studio)
    (key : String) (mask : UInt64) : Reachable plugins (c.tick studio key mask).1 :=
  h.move (.tick studio key mask)

theorem Reachable.run {plugins : List (Plugin σ)} (h : Reachable plugins c)
    (moves : List Move) : Reachable plugins (c.run moves) := by
  induction moves generalizing c with
  | nil => exact h
  | cons m rest ih => exact ih (h.move m)

/-- What holds of a carousel in every run. -/
structure Sound (c : Carousel σ) : Prop where
  inside : c.plugins ≠ [] → c.current < c.plugins.length
  ready : ∀ p ∈ c.plugins, p.Ready
  report : c.report.length = Panel.reportLength

theorem Sound.active (h : c.Sound) (loaded : c.plugins ≠ []) :
    ∃ p, c.active = some p ∧ p.Ready := by
  obtain ⟨p, found⟩ := active_of_inside (h.inside loaded)
  exact ⟨p, found, h.ready p (mem_of_active found)⟩

section Redraw

/-- The screen of a plugin after its redraw, with the padlock over it. -/
def overlaid (c : Carousel σ) (p : Plugin σ) (studio : Studio) : Screen :=
  (Scene.padlock ⟨(p.refresh studio).1.screen, (p.refresh studio).2.1⟩ c.locked
    Padlock.column Padlock.row).screen

/-- The plugin on display redrawn, with the padlock over it. -/
def redisplayed (c : Carousel σ) (p : Plugin σ) (studio : Studio) : Carousel σ :=
  c.onActive fun _ => { (p.refresh studio).1 with screen := c.overlaid p studio }

theorem overlaid_reaches (c : Carousel σ) {p : Plugin σ} (orderly : p.behaviour.Orderly)
    (studio : Studio) : p.screen.Reaches (c.overlaid p studio) :=
  (Plugin.refresh_evolves orderly studio).screen.trans
    (.act (p.refresh studio).2.1 (.padlock c.locked Padlock.column Padlock.row))

theorem frame_redisplayed {p : Plugin σ} {studio : Studio} {frame : Bitmap}
    (found : c.active = some p) (shown : (c.overlaid p studio).picture .current = .ok frame) :
    (c.redisplayed p studio).frame = some frame := by
  rw [Carousel.frame, redisplayed, active_onActive _ found, Option.bind_some, shown]
  rfl

/-- The two ways in which a redraw can end. -/
inductive Redrawn (c : Carousel σ) (studio : Studio) :
    Carousel σ → Option Interruption → Prop
  | breaks {p : Plugin σ} {interruption : Interruption} (found : c.active = some p)
      (interrupted : (p.refresh studio).2.2 = some interruption) :
      Redrawn c studio (c.onActive fun _ => (p.refresh studio).1) (some interruption)
  | shows {p : Plugin σ} {frame : Bitmap} (found : c.active = some p)
      (done : (p.refresh studio).2.2 = none)
      (shown : (c.overlaid p studio).picture .current = .ok frame)
      (size : frame.size = Panel.size) :
      Redrawn c studio
        { c.redisplayed p studio with report := Report.header ++ frame.columnBytes } none

/-- A frame on show of the panel's size always makes a report. -/
theorem encode_eq {p : Plugin σ} {frame : Bitmap} (found : c.active = some p)
    (shown : p.screen.picture .current = .ok frame) (size : frame.size = Panel.size)
    (length : c.report.length = Panel.reportLength) :
    c.encode = ({ c with report := Report.header ++ frame.columnBytes }, none) := by
  rw [encode, found]
  dsimp only
  rw [shown]
  dsimp only
  rw [Report.encode_eq length size]

theorem redraw_of_interruption {p : Plugin σ} {studio : Studio} {interruption : Interruption}
    (found : c.active = some p) (interrupted : (p.refresh studio).2.2 = some interruption) :
    (c.redraw studio).1 = c.onActive (fun _ => (p.refresh studio).1) ∧
      (c.redraw studio).2.2 = some interruption := by
  rw [redraw, found]
  dsimp only
  split
  next q after other result =>
    rw [result] at interrupted ⊢
    exact ⟨rfl, interrupted⟩
  next q after result =>
    rw [result] at interrupted
    cases interrupted

theorem redraw_of_done {p : Plugin σ} {studio : Studio} (found : c.active = some p)
    (done : (p.refresh studio).2.2 = none) :
    (c.redraw studio).1 = (c.redisplayed p studio).encode.1 ∧
      (c.redraw studio).2.2 = (c.redisplayed p studio).encode.2.map .fault := by
  rw [redraw, redisplayed, overlaid, found]
  dsimp only
  split
  next q after other result =>
    rw [result] at done
    cases done
  next q after result =>
    rw [result]
    exact ⟨rfl, rfl⟩

/-- Whatever a plugin does when it redraws, it does not get at the dial. -/
theorem dial_redraw (c : Carousel σ) (studio : Studio) : (c.redraw studio).1.dial = c.dial := by
  have encoded (d : Carousel σ) : d.encode.1.dial = d.dial := by
    rw [encode]
    split
    · rfl
    · split
      · rfl
      · split <;> rfl
  rw [redraw]
  split
  · rfl
  · split
    · rfl
    · exact encoded _

/-- A redraw breaks off only where the plugin's own redraw does. -/
theorem redrawn (h : c.Sound) (loaded : c.plugins ≠ []) (studio : Studio) :
    Redrawn c studio (c.redraw studio).1 (c.redraw studio).2.2 := by
  obtain ⟨p, found, ready⟩ := h.active loaded
  cases result : (p.refresh studio).2.2 with
  | some interruption =>
    obtain ⟨carousel, interrupted⟩ := redraw_of_interruption found result
    rw [carousel, interrupted]
    exact .breaks found result
  | none =>
    have showable := ready.showable.reaches (c.overlaid_reaches ready.behaviour studio)
    obtain ⟨frame, shown, size⟩ := showable.picture
    obtain ⟨carousel, fault⟩ := redraw_of_done found result
    rw [carousel, fault, encode_eq (c := c.redisplayed p studio) (active_onActive _ found)
      shown size h.report]
    exact .shows found result shown size

end Redraw

namespace Redrawn

variable {studio : Studio} {interruption : Option Interruption}

theorem evolves (h : Redrawn c studio d interruption) (ready : ∀ p ∈ c.plugins, p.Ready) :
    c.Evolves d := by
  cases h with
  | breaks found =>
    refine evolves_onActive fun q here => ?_
    cases found.symm.trans here
    exact Plugin.refresh_evolves (ready _ (mem_of_active found)).behaviour studio
  | shows found done shown size =>
    refine evolves_onActive fun q here => ?_
    cases found.symm.trans here
    exact ⟨rfl, c.overlaid_reaches (ready _ (mem_of_active found)).behaviour studio⟩

/-- A redraw leaves a report of the same length. -/
theorem length_report (h : Redrawn c studio d interruption)
    (length : c.report.length = Panel.reportLength) : d.report.length = Panel.reportLength := by
  cases h with
  | breaks => exact length
  | shows _ _ _ size => exact Report.length_append_header (Bitmap.length_columnBytes_of_size size)

end Redrawn

section Tick

variable (c : Carousel σ) (studio : Studio) (key : String) (mask : UInt64)

/-- What a tick makes of its report: it is stamped, and blanked on a fault. A machine that stops
does not get to that. -/
def settled (report : List UInt8) : Option Interruption → List UInt8
  | none => Report.stampHeader report
  | some (.fault _) => Report.stampHeader (List.replicate report.length 0)
  | some (.stop _) => report

theorem length_settled {report : List UInt8} (length : report.length = Panel.reportLength)
    (interruption : Option Interruption) :
    (settled report interruption).length = Panel.reportLength := by
  rcases interruption with _ | fault | stop
  · exact Report.length_stampHeader length
  · exact Report.length_stampHeader (List.length_replicate.trans length)
  · exact length

/-- A tick is its composition, with the report as it is settled. -/
theorem tick_eq : (c.tick studio key mask).1 =
    { (c.compose studio key mask).1 with
      report := settled (c.compose studio key mask).1.report (c.compose studio key mask).2.2 } := by
  rw [tick]
  split <;> next composed => rw [composed]; rfl

/-- The machine stops in a tick exactly if it stops in its composition. -/
theorem stop_tick_iff {stop : Stop} : (c.tick studio key mask).2.2 = some stop ↔
    (c.compose studio key mask).2.2 = some (.stop stop) := by
  rw [tick]
  split <;> next composed => simp [composed]

theorem plugins_tick : (c.tick studio key mask).1.plugins = (c.compose studio key mask).1.plugins :=
  (congrArg Carousel.plugins (c.tick_eq studio key mask)).trans rfl

theorem active_tick : (c.tick studio key mask).1.active = (c.compose studio key mask).1.active :=
  (congrArg Carousel.active (c.tick_eq studio key mask)).trans rfl

variable {c}

theorem Sound.pressed (h : c.Sound) : (c.pressed studio key).Sound := by
  have evolved := c.evolves_pressed studio key
  refine ⟨fun loaded => ?_, evolved.ready h.ready, ?_⟩
  · rw [current_pressed, evolved.length]
    exact h.inside (evolved.loaded_before loaded)
  · rw [report_pressed]
    exact h.report

/-- What a tick decides on a loaded carousel is one of the four ways to turn. -/
theorem decided_turned (h : c.Sound) (loaded : c.plugins ≠ []) :
    Turned (c.pressed studio key) mask (c.decided studio key mask).1
      (c.decided studio key mask).2.2 := by
  have evolved := c.evolves_pressed studio key
  obtain ⟨p, found, ready⟩ := (h.pressed studio key).active (evolved.plugins_ne_nil loaded)
  rw [decided_eq]
  exact turned found ready _ mask

/-- A decision fails if and only if no plugin is enabled. -/
theorem decided_fault (h : c.Sound) (loaded : c.plugins ≠ []) :
    (c.decided studio key mask).2.2 =
      if c.hasEnabled mask then none else some (.allDisabled mask) := by
  have same := (c.evolves_pressed studio key).hasEnabled mask
  rcases (decided_turned studio key mask h loaded).fault_iff with
    ⟨fault, nothing⟩ | ⟨fault, enabled⟩
  · rw [fault, ← same, nothing]
    rfl
  · rw [fault, ← same, enabled]
    rfl

theorem decided_done (h : c.Sound) (enabled : c.hasEnabled mask = true) :
    (c.decided studio key mask).2.2 = none := by
  rw [decided_fault studio key mask h (plugins_ne_nil_of_hasEnabled enabled), if_pos enabled]

theorem decided_evolves (h : c.Sound) (loaded : c.plugins ≠ []) :
    c.Evolves (c.decided studio key mask).1 :=
  (c.evolves_pressed studio key).trans (decided_turned studio key mask h loaded).evolves

theorem Sound.decided (h : c.Sound) (loaded : c.plugins ≠ []) :
    (c.decided studio key mask).1.Sound := by
  have pressed := h.pressed studio key
  have turn := decided_turned studio key mask h loaded
  refine ⟨fun _ => turn.inside ?_, turn.evolves.ready pressed.ready, ?_⟩
  · exact pressed.inside ((c.evolves_pressed studio key).plugins_ne_nil loaded)
  · rw [turn.report]
    exact pressed.report

/-- A tick of a loaded carousel ends with its decision if that fails, and else with
the redraw of what has been decided. -/
theorem composed (h : c.Sound) (loaded : c.plugins ≠ []) :
    (∃ fault, (c.decided studio key mask).2.2 = some fault ∧
      (c.compose studio key mask).1 = (c.decided studio key mask).1 ∧
      (c.compose studio key mask).2.2 = some (.fault fault)) ∨
    ((c.decided studio key mask).2.2 = none ∧
      Redrawn (c.decided studio key mask).1 (c.decided studio key mask).2.1
        (c.compose studio key mask).1 (c.compose studio key mask).2.2) := by
  have sound := h.decided studio key mask loaded
  have evolved := decided_evolves studio key mask h loaded
  rw [compose_eq loaded]
  split
  next d after fault result =>
    rw [result]
    exact .inl ⟨fault, rfl, rfl, rfl⟩
  next d after result =>
    rw [result] at sound evolved ⊢
    exact .inr ⟨rfl, redrawn sound (evolved.plugins_ne_nil loaded) after⟩

/-- A tick whose decision does not fail ends with a redraw. -/
theorem redrawn_of_done (h : c.Sound) (loaded : c.plugins ≠ [])
    (done : (c.decided studio key mask).2.2 = none) :
    Redrawn (c.decided studio key mask).1 (c.decided studio key mask).2.1
      (c.compose studio key mask).1 (c.compose studio key mask).2.2 := by
  rcases composed studio key mask h loaded with ⟨fault, failed, _⟩ | ⟨_, redrawn⟩
  · rw [done] at failed
    cases failed
  · exact redrawn

/-- Without plugins a tick only darkens the report. -/
theorem compose_of_empty (empty : c.plugins = []) : c.compose studio key mask =
    ({ c with report := List.replicate c.report.length 0 }, studio, none) := by
  rw [compose, if_pos (by simpa using empty)]

/-- The rotation goes its way whatever becomes of the redraw. -/
theorem dial_tick (loaded : c.plugins ≠ []) :
    (c.tick studio key mask).1.dial = (c.decided studio key mask).1.dial := by
  have dial : (c.tick studio key mask).1.dial = (c.compose studio key mask).1.dial :=
    (congrArg Carousel.dial (c.tick_eq studio key mask)).trans rfl
  rw [dial, compose_eq loaded]
  split
  next d after fault result => rw [result]
  next d after result =>
    rw [result]
    exact d.dial_redraw after

theorem current_tick (loaded : c.plugins ≠ []) :
    (c.tick studio key mask).1.current = (c.decided studio key mask).1.current :=
  congrArg Prod.fst (dial_tick studio key mask loaded)

theorem locked_tick (loaded : c.plugins ≠ []) :
    (c.tick studio key mask).1.locked = (c.decided studio key mask).1.locked :=
  congrArg (·.2.2) (dial_tick studio key mask loaded)

theorem decided_evolves_tick (h : c.Sound) (loaded : c.plugins ≠ []) :
    (c.decided studio key mask).1.Evolves (c.tick studio key mask).1 := by
  have plugins := c.plugins_tick studio key mask
  rcases composed studio key mask h loaded with ⟨fault, _, same, _⟩ | ⟨_, redrawn⟩
  · exact .of_plugins_eq (plugins.trans (congrArg Carousel.plugins same))
  · exact (redrawn.evolves (h.decided studio key mask loaded).ready).trans (.of_plugins_eq plugins)

/-- Every plugin evolves in a tick. -/
theorem evolves_tick (h : c.Sound) : c.Evolves (c.tick studio key mask).1 := by
  by_cases loaded : c.plugins = []
  · refine .of_plugins_eq ?_
    rw [plugins_tick, compose_of_empty studio key mask loaded]
  · exact (decided_evolves studio key mask h loaded).trans
      (decided_evolves_tick studio key mask h loaded)

theorem length_report_compose (h : c.Sound) :
    (c.compose studio key mask).1.report.length = Panel.reportLength := by
  by_cases loaded : c.plugins = []
  · rw [compose_of_empty studio key mask loaded]
    exact List.length_replicate.trans h.report
  · have sound := h.decided studio key mask loaded
    rcases composed studio key mask h loaded with ⟨fault, _, same, _⟩ | ⟨_, redrawn⟩
    · rw [same]
      exact sound.report
    · exact redrawn.length_report sound.report

theorem Sound.tick (h : c.Sound) : (c.tick studio key mask).1.Sound := by
  have evolved := evolves_tick studio key mask h
  refine ⟨fun loaded => ?_, evolved.ready h.ready, ?_⟩
  · have before := evolved.loaded_before loaded
    have after := decided_evolves_tick studio key mask h before
    rw [current_tick studio key mask before, after.length]
    exact (h.decided studio key mask before).inside
      ((decided_evolves studio key mask h before).plugins_ne_nil before)
  · rw [tick_eq]
    exact length_settled (length_report_compose studio key mask h) _

end Tick

section Reachable

/-- A forced rotation sets the dial and leaves the plugins and the report. -/
theorem forceNext_eq (c : Carousel σ) :
    ∃ ticks, c.forceNext = { c with ticks, locked := false } := by
  rw [forceNext]
  split
  · exact ⟨c.ticks, rfl⟩
  · exact ⟨_, rfl⟩

theorem evolves_move (m : Move) (h : c.Sound) : c.Evolves (c.move m) := by
  cases m with
  | tick studio key mask => exact evolves_tick studio key mask h
  | forceNext =>
    obtain ⟨ticks, forced⟩ := c.forceNext_eq
    exact .of_plugins_eq ((congrArg Carousel.plugins forced).trans rfl)

theorem Sound.move (m : Move) (h : c.Sound) : (c.move m).Sound := by
  cases m with
  | tick studio key mask => exact h.tick studio key mask
  | forceNext =>
    obtain ⟨ticks, forced⟩ := c.forceNext_eq
    change c.forceNext.Sound
    rw [forced]
    exact ⟨h.inside, h.ready, h.report⟩

theorem Sound.run (moves : List Move) (h : c.Sound) : (c.run moves).Sound := by
  induction moves generalizing c with
  | nil => exact h
  | cons m rest ih => exact ih (h.move m)

theorem evolves_run (moves : List Move) (h : c.Sound) : c.Evolves (c.run moves) := by
  induction moves generalizing c with
  | nil => exact .refl c
  | cons m rest ih => exact (evolves_move m h).trans (ih (h.move m))

variable {plugins : List (Plugin σ)}

/-- Whoever is loaded has been set up without a fault. -/
theorem setUp_of_load {setting : Setting} {studio : Studio} {q : Plugin σ}
    (member : q ∈ (load setting studio plugins).1) :
    ∃ p ∈ plugins, ∃ found after, p.setUp setting found = (q, after, none) := by
  induction plugins generalizing studio with
  | nil => cases member
  | cons p rest ih =>
    have later {studio : Studio} (member : q ∈ (load setting studio rest).1) :
        ∃ r ∈ p :: rest, ∃ found after, r.setUp setting found = (q, after, none) := by
      obtain ⟨r, given, made⟩ := ih member
      exact ⟨r, List.mem_cons_of_mem p given, made⟩
    rw [load] at member
    split at member
    · exact later member
    next ready after result =>
      rcases List.mem_cons.mp member with rfl | member
      · exact ⟨p, List.mem_cons_self, studio, after, result⟩
      · exact later member

/-- Whoever comes up can be shown, and behaves like one of the given plugins. -/
theorem ready_of_load (orderly : ∀ p ∈ plugins, p.Orderly) (setting : Setting) (studio : Studio) :
    ∀ q ∈ (load setting studio plugins).1,
      q.Ready ∧ ∃ p ∈ plugins, q.behaviour = p.behaviour := by
  intro q member
  obtain ⟨p, given, found, after, made⟩ := setUp_of_load member
  have behaviour := p.behaviour_setUp setting found
  rw [made] at behaviour
  exact ⟨Plugin.ready_of_setUp (orderly p given) made, p, given, behaviour⟩

theorem start_eq (setting : Setting) (studio : Studio) (plugins : List (Plugin σ)) :
    (Carousel.start setting studio plugins).1 =
      ⟨(load setting studio plugins).1, 0, 0, false, Report.dark⟩ := rfl

theorem sound_start (orderly : ∀ p ∈ plugins, p.Orderly) (setting : Setting) (studio : Studio) :
    (Carousel.start setting studio plugins).1.Sound := by
  rw [start_eq]
  constructor
  case inside => exact List.length_pos_iff.mpr
  case ready => exact fun q member => (ready_of_load orderly setting studio q member).1
  case report =>
    dsimp only
    exact Report.length_dark

/-- Every carousel that orderly plugins ever form is sound. -/
theorem Reachable.sound (h : Reachable plugins c) (orderly : ∀ p ∈ plugins, p.Orderly) :
    c.Sound := by
  induction h with
  | start setting studio => exact sound_start orderly setting studio
  | move m _ ih => exact ih.move m

/-- The plugins of a run behave like those that were given. -/
theorem Reachable.behaviours {P : Behaviour σ → Prop} (h : Reachable plugins c)
    (orderly : ∀ p ∈ plugins, p.Orderly) (all : ∀ p ∈ plugins, P p.behaviour) :
    ∀ q ∈ c.plugins, P q.behaviour := by
  induction h with
  | start setting studio =>
    intro q member
    obtain ⟨_, p, given, same⟩ := ready_of_load orderly setting studio q member
    exact same ▸ all p given
  | move m before ih => exact (evolves_move m (before.sound orderly)).behaviours ih

end Reachable

section Trio

/-- Three plugins with blank frames. The first has no budget, the second fails every
other redraw, and the third has two frames. -/
def trio : List (Plugin Nat) :=
  [Script.plugin ⟨none, [(.ok .blankFrame, 1)], []⟩ ⟨1, "first", ""⟩ ⟨100, 0⟩,
    Script.plugin ⟨none, [(.ok .blankFrame, 0)], [.act [], .fail .trailingData]⟩
      ⟨2, "second", ""⟩ ⟨100, 3⟩,
    Script.plugin ⟨none, [(.ok .blankFrame, 0), (.ok .blankFrame, 2)], []⟩
      ⟨4, "third", ""⟩ ⟨100, 2⟩]

theorem trio_orderly : ∀ p ∈ trio, p.Orderly := by
  intro p member
  simp only [trio, List.mem_cons, List.not_mem_nil, or_false] at member
  rcases member with rfl | rfl | rfl <;> exact Script.plugin_orderly ..

/-- What becomes of the three plugins in some moves. -/
def trioAfter (moves : List Move) : Carousel Nat := (start ⟨"", ""⟩ default trio).1.run moves

theorem reachable_trioAfter (moves : List Move) : Reachable trio (trioAfter moves) :=
  (Reachable.start ⟨"", ""⟩ default).run moves

theorem loaded_trioAfter (moves : List Move) : (trioAfter moves).plugins ≠ [] := by
  have length : (start ⟨"", ""⟩ default trio).1.plugins.length = 3 := by decide +kernel
  have evolved := evolves_run moves (sound_start trio_orderly ⟨"", ""⟩ default)
  refine evolved.plugins_ne_nil (List.ne_nil_of_length_pos ?_)
  omega

end Trio

end LcdCompositor.Carousel
