import LcdCompositor.Proofs.Carousel.Display
import LcdCompositor.Proofs.Carousel.Lock
import LcdCompositor.Proofs.Drawing.Padlock
import LcdCompositor.Proofs.History
import LcdCompositor.Proofs.Report.Image
import LcdCompositor.Proofs.Screen.Picture

/-!
# The padlock on display

The padlock is painted over the frame on show in every tick, and a frame keeps what is
painted on it, so what stands there could be of any age. It never is: every tick that
shows a frame paints the whole place anew, from the lock and from the history of the
screen on display.

That history is a flag. It is set in two places and cleared in the middle of a search,
and yet it tells exactly whether the plugin on display has been locked since it came in,
or since no plugin was enabled, whichever is later. `LockedSince` says so in terms of the
moves alone, and `Remembers` is the invariant that ties the flag to it.
-/

namespace LcdCompositor

/-- The padlock of the panel is drawn into every showable screen, and it is the one that
the screen's own history asks for. -/
theorem Scene.picture_padlock (scene : Scene) (showable : scene.screen.Showable)
    (locked : Bool) :
    ∃ frame, (scene.padlock locked Padlock.column Padlock.row).screen.picture .current = .ok frame ∧
      Padlock.StandsIn frame.getPixel (Padlock.rows locked
        (scene.padlock locked Padlock.column Padlock.row).screen.everLocked) := by
  obtain ⟨old, found, size⟩ := showable.picture
  have shown := (Shows.mk found rfl).padlock locked Padlock.column Padlock.row
  obtain ⟨new, drawn, stands⟩ := Drawing.padlock_of_panel size locked
    (scene.padlock locked Padlock.column Padlock.row).screen.everLocked
  rw [Drawing.attempt, drawn] at shown
  exact ⟨new, shown.picture, stands⟩

namespace Carousel

variable {σ : Type} {c d : Carousel σ} {p : Plugin σ} {studio : Studio} {key : String}
  {mask : UInt64} {i : Nat} {m : Move} {moves : List Move}

section History

/-- A move locks the plugin at a place: the lock key finds it on display and unlocked. -/
def Locks (c : Carousel σ) (i : Nat) : Move → Prop
  | .tick _ key _ => key = Panel.lockKey ∧ c.locked = false ∧ c.current = i
  | .forceNext => False

/-- A move begins the history of a plugin anew: it rotates the plugin in, or its mask
enables no plugin at all. -/
def Renews (c : Carousel σ) (i : Nat) : Move → Prop
  | .tick studio key mask =>
    c.hasEnabled mask = false ∨
      (c.Rotates studio key mask ∧ (c.tick studio key mask).1.current = i)
  | .forceNext => False

/-- No move of a row begins the history of a plugin anew. -/
def Lasts (c : Carousel σ) (i : Nat) : List Move → Prop
  | [] => True
  | m :: rest => ¬ c.Renews i m ∧ (c.move m).Lasts i rest

/-- Some move has locked the plugin at a place, and from that move on its history has
not begun anew. -/
def LockedSince (c : Carousel σ) (i : Nat) (moves : List Move) : Prop :=
  ∃ early m late, moves = early ++ m :: late ∧ (c.run early).Locks i m ∧
    (c.run early).Lasts i (m :: late)

theorem lasts_concat :
    c.Lasts i (moves ++ [m]) ↔ c.Lasts i moves ∧ ¬ (c.run moves).Renews i m := by
  induction moves generalizing c with
  | nil => simp [Lasts]
  | cons first rest ih =>
    rw [List.cons_append, Lasts, Lasts, ih, run_cons, and_assoc]

theorem not_lockedSince_nil : ¬ c.LockedSince i [] := by
  rintro ⟨early, m, late, same, -⟩
  simp at same

/-- The last move decides, unless it leaves the history as it was. -/
theorem lockedSince_concat :
    c.LockedSince i (moves ++ [m]) ↔ ¬ (c.run moves).Renews i m ∧
      (c.LockedSince i moves ∨ (c.run moves).Locks i m) := by
  constructor
  · rintro ⟨early, l, late, same, holds⟩
    rcases (exists_cut_concat (P := fun early late => (c.run early).Locks i l ∧
        (c.run early).Lasts i (l :: late))).mp ⟨early, late, same, holds⟩ with
      ⟨early, late, rfl, locks, lasts⟩ | ⟨rfl, locks, lasts⟩
    · rw [← List.cons_append, lasts_concat, ← run_append] at lasts
      exact ⟨lasts.2, .inl ⟨early, l, late, rfl, locks, lasts.1⟩⟩
    · exact ⟨lasts.1, .inr locks⟩
  · rintro ⟨stays, ⟨early, l, late, rfl, locks, lasts⟩ | locks⟩
    · refine ⟨early, l, late ++ [m], by simp, locks, ?_⟩
      rw [← List.cons_append, lasts_concat, ← run_append]
      exact ⟨lasts, stays⟩
    · exact ⟨moves, m, [], rfl, locks, stays, trivial⟩

end History

section Flag

/-- A search forgets the lock history of the plugin it ends at. -/
theorem everLocked_of_seek_found {distance left : Nat}
    (h : seek mask c distance left = (d, some i)) :
    ∀ p, d.plugins[i]? = some p → p.screen.everLocked = false := by
  induction left generalizing c distance with
  | zero => cases h
  | succ left ih =>
    rw [seek_succ] at h
    split at h
    · cases h
      intro p found
      rw [forget, List.getElem?_modify] at found
      obtain ⟨q, _, rfl⟩ := Option.map_eq_some_iff.mp found
      rw [if_pos rfl]
      rfl
    · exact ih h

/-- Whoever is rotated in has no lock history. -/
theorem everLocked_of_rotate (done : (c.rotate studio mask).2.2 = none)
    (found : (c.rotate studio mask).1.active = some p) : p.screen.everLocked = false := by
  rw [rotate] at done found
  split at found
  next nothing =>
    rw [nothing] at done
    cases done
  next searched i result =>
    dsimp only at found
    rw [active, onActive, List.getElem?_modify] at found
    obtain ⟨q, here, rfl⟩ := Option.map_eq_some_iff.mp found
    rw [if_pos rfl]
    exact everLocked_of_seek_found result q here

/-- The lock key marks the plugin on display when it locks it; nothing else does. -/
theorem everLocked_pressed (found : c.active = some p) (studio : Studio) (key : String) :
    ∃ q, (c.pressed studio key).active = some q ∧
      (q.screen.everLocked = true ↔
        p.screen.everLocked = true ∨ key = Panel.lockKey ∧ c.locked = false) := by
  rw [pressed, handleKey]
  by_cases locks : key = Panel.lockKey ∧ c.locked = false
  · have unlocked : ¬ c.countTick.locked = true := by simpa [countTick] using locks.2
    rw [if_pos locks.1, if_neg unlocked]
    exact ⟨_, active_onActive (c := { c.countTick with locked := true }) _ found,
      iff_of_true rfl (.inr locks)⟩
  · refine ⟨p, ?_, (or_iff_left locks).symm⟩
    split
    · next lock =>
      have locked : c.countTick.locked = true := by simpa [countTick, lock] using locks
      rw [if_pos locked]
      exact found
    · exact found

/-- A rotation brings in a plugin without lock history and opens the lock. -/
theorem everLocked_decided_of_rotates (h : c.Sound) (loaded : c.plugins ≠ [])
    (rotates : c.Rotates studio key mask) (done : (c.decided studio key mask).2.2 = none) :
    ∃ q, (c.decided studio key mask).1.active = some q ∧ q.screen.everLocked = false ∧
      (c.decided studio key mask).1.locked = false := by
  obtain ⟨distance, q, _, onShow, _, _, dial⟩ :=
    landing_of_rotates studio key mask h loaded rotates done
  refine ⟨q, onShow, ?_, ?_⟩
  · rw [rotates] at done onShow
    exact everLocked_of_rotate done onShow
  · rw [← locked_tick studio key mask loaded]
    exact congrArg (·.2.2) dial

/-- Where the plugin stays, only the key can have changed its flag. -/
theorem everLocked_decided_of_stays (h : c.Sound) (found : c.active = some p)
    (stays : ¬ c.Rotates studio key mask) :
    ∃ q, (c.decided studio key mask).1.active = some q ∧
      (q.screen.everLocked = true ↔
        p.screen.everLocked = true ∨ key = Panel.lockKey ∧ c.locked = false) ∧
      (c.decided studio key mask).1.locked = c.lockedAfter key := by
  obtain ⟨q, here, flag⟩ := everLocked_pressed found studio key
  have ready := (h.pressed studio key).ready q (mem_of_active here)
  rw [rotates_iff_givesWay studio key mask here ready] at stays
  obtain ⟨_, ⟨t, moved, onShow⟩, dial⟩ :=
    (decided_turned studio key mask h (loaded_of_active found)).staying here stays
  refine ⟨_, onShow, ?_, (congrArg (·.2.2) dial).trans (c.locked_pressed studio key)⟩
  dsimp only
  rw [Screen.everLocked_of_advance moved, flag]

/-- What the decision of a tick leaves of the flag of the plugin on display: a rotation
clears it, and else the key may set it. A locked plugin has it set. -/
theorem everLocked_decided (h : c.Sound) (found : c.active = some p)
    (marked : c.locked = true → p.screen.everLocked = true)
    (done : (c.decided studio key mask).2.2 = none) :
    ∃ q, (c.decided studio key mask).1.active = some q ∧
      (q.screen.everLocked = true ↔ ¬ c.Rotates studio key mask ∧
        (p.screen.everLocked = true ∨ key = Panel.lockKey ∧ c.locked = false)) ∧
      ((c.decided studio key mask).1.locked = true → q.screen.everLocked = true) := by
  by_cases rotates : c.Rotates studio key mask
  · obtain ⟨q, onShow, fresh, unlocked⟩ :=
      everLocked_decided_of_rotates h (loaded_of_active found) rotates done
    refine ⟨q, onShow, iff_of_false (by simp [fresh]) (fun stays => stays.1 rotates), ?_⟩
    rw [unlocked]
    rintro ⟨⟩
  · obtain ⟨q, onShow, flag, lock⟩ := everLocked_decided_of_stays h found rotates
    refine ⟨q, onShow, flag.trans (and_iff_right rotates).symm, fun locked => flag.mpr ?_⟩
    rw [lock, lockedAfter] at locked
    split at locked
    · next press => exact .inr ⟨press, by simpa using locked⟩
    · exact .inl (marked locked)

end Flag

section Redraw

/-- A redraw by a discreet plugin keeps the flag of the plugin on display, because the
padlock it may put there is closed only if the flag is set. -/
theorem Redrawn.everLocked {interruption : Option Interruption}
    (h : Redrawn c studio d interruption)
    (discreet : ∀ p ∈ c.plugins, p.behaviour.Discreet) (found : c.active = some p)
    (marked : c.locked = true → p.screen.everLocked = true) :
    ∃ q, d.active = some q ∧ q.screen.everLocked = p.screen.everLocked := by
  have refreshed : (p.refresh studio).1.screen.everLocked = p.screen.everLocked :=
    (discreet p (mem_of_active found)).refresh p.memory ⟨p.screen, studio⟩
  cases h with
  | breaks here =>
    cases found.symm.trans here
    exact ⟨_, active_onActive _ found, refreshed⟩
  | shows here =>
    cases found.symm.trans here
    refine ⟨_, active_onActive _ found, ?_⟩
    dsimp only
    rw [overlaid, Scene.everLocked_padlock]
    dsimp only
    rw [refreshed]
    cases locked : c.locked with
    | false => rfl
    | true => rw [marked locked]; rfl

/-- What a redraw that does not fail puts in the place of the padlock. -/
theorem Redrawn.padlock (h : Redrawn c studio d none) (ready : ∀ p ∈ c.plugins, p.Ready) :
    ∃ q frame, d.active = some q ∧ d.frame = some frame ∧
      Padlock.StandsIn frame.getPixel (Padlock.rows c.locked q.screen.everLocked) := by
  cases h with
  | @shows p _ found =>
    have refreshed := Plugin.refresh_evolves (ready p (mem_of_active found)).behaviour studio
    have showable := (refreshed.ready (ready p (mem_of_active found))).showable
    obtain ⟨frame, shown, stands⟩ := Scene.picture_padlock
      ⟨(p.refresh studio).1.screen, (p.refresh studio).2.1⟩ showable c.locked
    exact ⟨_, frame, active_onActive _ found, frame_redisplayed found shown, stands⟩

end Redraw

section Invariant

/-- The flag of the plugin on display tells a history, and a lock is part of it. -/
structure Remembers (c : Carousel σ) (history : Nat → Prop) : Prop where
  flag : ∀ p, c.active = some p → (p.screen.everLocked = true ↔ history c.current)
  lock : ∀ p, c.active = some p → c.locked = true → p.screen.everLocked = true

variable {history : Nat → Prop}

/-- Where nothing is enabled every history begins anew, also that of a plugin that has
been locked in this very tick. -/
theorem remembers_of_none (h : c.Sound) (nothing : c.hasEnabled mask = false)
    (studio : Studio) (key : String) :
    (c.tick studio key mask).1.Remembers fun i =>
      ¬ c.Renews i (.tick studio key mask) ∧ (history i ∨ c.Locks i (.tick studio key mask)) := by
  have forgotten {q : Plugin σ} (shown : (c.tick studio key mask).1.active = some q) :
      q.screen.everLocked = false ∧ (c.tick studio key mask).1.locked = false := by
    have loaded := (evolves_tick studio key mask h).loaded_before (loaded_of_active shown)
    obtain ⟨_, unlocked, clear⟩ := tick_of_none studio key mask h loaded nothing
    exact ⟨clear q (mem_of_active shown), unlocked⟩
  constructor
  · intro q shown
    exact iff_of_false (by simp [(forgotten shown).1]) fun ⟨stays, _⟩ => stays (.inl nothing)
  · intro q shown locked
    rw [(forgotten shown).2] at locked
    cases locked

/-- A tick with an enabled plugin redraws, and the redraw keeps the flag as decided. -/
theorem everLocked_tick (h : c.Sound) (discreet : ∀ p ∈ c.plugins, p.behaviour.Discreet)
    (enabled : c.hasEnabled mask = true) (found : c.active = some p)
    (marked : c.locked = true → p.screen.everLocked = true) :
    ∃ q, (c.tick studio key mask).1.active = some q ∧
      (q.screen.everLocked = true ↔ ¬ c.Rotates studio key mask ∧
        (p.screen.everLocked = true ∨ key = Panel.lockKey ∧ c.locked = false)) ∧
      ((c.tick studio key mask).1.locked = true → q.screen.everLocked = true) := by
  have loaded := loaded_of_active found
  have done := decided_done studio key mask h enabled
  obtain ⟨p', onShow, flag, marked'⟩ := everLocked_decided h found marked done
  obtain ⟨q, shown, same⟩ := (redrawn_of_done studio key mask h loaded done).everLocked
    ((decided_evolves studio key mask h loaded).behaviours discreet) onShow marked'
  rw [active_tick, locked_tick studio key mask loaded]
  exact ⟨q, shown, same ▸ flag, same ▸ marked'⟩

/-- A tick adds its own lock to the history, or begins a new one. -/
theorem Remembers.tick (before : c.Remembers history) (h : c.Sound)
    (discreet : ∀ p ∈ c.plugins, p.behaviour.Discreet) (studio : Studio) (key : String)
    (mask : UInt64) :
    (c.tick studio key mask).1.Remembers fun i =>
      ¬ c.Renews i (.tick studio key mask) ∧ (history i ∨ c.Locks i (.tick studio key mask)) := by
  cases enabled : c.hasEnabled mask with
  | false => exact remembers_of_none h enabled studio key
  | true =>
    obtain ⟨p, found, _⟩ := h.active (plugins_ne_nil_of_hasEnabled enabled)
    obtain ⟨q, onShow, flag, marked⟩ :=
      everLocked_tick h discreet enabled found (before.lock p found)
    have renews : c.Renews (c.tick studio key mask).1.current (.tick studio key mask) ↔
        c.Rotates studio key mask := by
      simp [Renews, enabled]
    constructor
    · intro q' shown
      cases onShow.symm.trans shown
      rw [flag, renews, before.flag p found]
      apply and_congr_right
      intro stays
      have place : (c.tick studio key mask).1.current = c.current :=
        congrArg Prod.fst (dial_of_stays studio key mask h found stays)
      rw [place]
      simp [Locks]
    · intro q' shown
      cases onShow.symm.trans shown
      exact marked

/-- A forced rotation leaves the history for the next tick to end. -/
theorem Remembers.move (before : c.Remembers history) (h : c.Sound)
    (discreet : ∀ p ∈ c.plugins, p.behaviour.Discreet) (m : Move) :
    (c.move m).Remembers fun i => ¬ c.Renews i m ∧ (history i ∨ c.Locks i m) := by
  cases m with
  | tick studio key mask => exact before.tick h discreet studio key mask
  | forceNext =>
    obtain ⟨ticks, forced⟩ := c.forceNext_eq
    have moved : c.move .forceNext = { c with ticks, locked := false } := forced
    rw [moved]
    constructor
    · intro p found
      simpa [Renews, Locks] using before.flag p found
    · rintro p found ⟨⟩

/-- In every run the flag tells the history of the run. -/
theorem remembers_run (h : c.Sound) (discreet : ∀ p ∈ c.plugins, p.behaviour.Discreet)
    (first : c.Remembers fun _ => False) (moves : List Move) :
    (c.run moves).Remembers fun i => c.LockedSince i moves := by
  induction moves using List.reverseRecOn with
  | nil =>
    simp only [not_lockedSince_nil]
    exact first
  | append_singleton moves m ih =>
    have evolved := evolves_run moves h
    simp only [lockedSince_concat, run_append, run_cons, run_nil]
    exact ih.move (h.run moves) (evolved.behaviours discreet) m

/-- Plugins that have just been loaded have no history. -/
theorem remembers_start {plugins : List (Plugin σ)} (discreet : ∀ p ∈ plugins, p.Discreet)
    (setting : Setting) (studio : Studio) :
    (Carousel.start setting studio plugins).1.Remembers fun _ => False := by
  rw [start_eq]
  constructor
  · intro q found
    obtain ⟨p, given, _, _, made⟩ := setUp_of_load (mem_of_active found)
    simp [Plugin.everLocked_of_setUp (discreet p given) made]
  · rintro q found ⟨⟩

end Invariant

section Shown

/-- The report shows what stands on the frame in the place of the padlock. -/
theorem standsIn_report {frame : Bitmap} {rows : List UInt8} (size : frame.size = Panel.size)
    (stands : Padlock.StandsIn frame.getPixel rows) :
    Padlock.StandsIn
      (Report.bandPixel 160 ((Report.header ++ frame.columnBytes).drop 32)) rows := by
  have width := Bitmap.width_of_panel size
  have height := Bitmap.height_of_panel size
  have header : Report.header.length = 32 := Report.length_header
  intro x hx y hy
  rw [← stands x hx y hy, List.drop_left' header, ← width]
  apply Report.bandPixel_columnBytes
  · rw [height]
  · rw [width, Padlock.column]
    omega
  · rw [height, Padlock.row]
    omega

/-- After a tick that is not blanked the padlock on the frame on display is the one that
the lock and the flag of the plugin on display ask for. -/
theorem padlock_tick (h : c.Sound) (shown : ¬ c.Blanked studio key mask) :
    ∃ q frame, (c.tick studio key mask).1.active = some q ∧
      (c.tick studio key mask).1.frame = some frame ∧
      Padlock.StandsIn frame.getPixel
        (Padlock.rows (c.tick studio key mask).1.locked q.screen.everLocked) := by
  obtain ⟨loaded, done⟩ := not_or.mp shown
  rw [Option.not_isSome_iff_eq_none] at done
  rw [locked_tick studio key mask loaded, frame, active_tick]
  obtain ⟨_, _, _, failed⟩ | ⟨_, redrawn⟩ := composed studio key mask h loaded
  · rw [done] at failed
    cases failed
  · rw [done] at redrawn
    exact redrawn.padlock (h.decided studio key mask loaded).ready

/-- After every tick that is not blanked, frame and report show the closed padlock while
the carousel is locked, the open one if the plugin on display has been locked in its
present history, and nothing else. That holds over all plugins that leave the lock
history alone, in whatever way they came on display and whatever stood on the frame
before; and the built-in plugins are such plugins. -/
theorem tick_padlock :
    (∀ {σ : Type} {plugins : List (Plugin σ)}, (∀ p ∈ plugins, p.Orderly ∧ p.Discreet) →
      ∀ (setting : Setting) (setup : Studio) (moves : List Move)
        (studio : Studio) (key : String) (mask : UInt64),
      let first := (start setting setup plugins).1
      let after := ((first.run moves).tick studio key mask).1
      ¬ (first.run moves).Blanked studio key mask →
      ∃ frame, after.frame = some frame ∧
        ∀ pixel ∈ [frame.getPixel, Report.bandPixel 160 (after.report.drop 32)],
          (after.locked = true → Padlock.StandsIn pixel Padlock.closed) ∧
          (after.locked = false →
            first.LockedSince after.current (moves ++ [.tick studio key mask]) →
              Padlock.StandsIn pixel Padlock.opened) ∧
          (after.locked = false →
            ¬ first.LockedSince after.current (moves ++ [.tick studio key mask]) →
              ∀ x < 5, ∀ y < 6, pixel (152 + x) (42 + y) = false)) ∧
    ∀ feed, ∀ p ∈ builtinPlugins feed, p.Orderly ∧ p.Discreet := by
  constructor
  · intro σ plugins fit setting setup moves studio key mask first after shown
    have orderly : ∀ p ∈ plugins, p.Orderly := fun p member => (fit p member).1
    have discreet : ∀ p ∈ plugins, p.Discreet := fun p member => (fit p member).2
    have reachable : Reachable plugins first := .start setting setup
    have sound := reachable.sound orderly
    have behaved := reachable.behaviours orderly fun p member => (discreet p member).behaviour
    have remembers := remembers_run sound behaved (remembers_start discreet setting setup)
      (moves ++ [.tick studio key mask])
    rw [run_append, run_cons, run_nil] at remembers
    obtain ⟨frame, onShow, size, report⟩ := report_of_shown studio key mask (sound.run moves) shown
    obtain ⟨q, frame', here, onShow', stands⟩ := padlock_tick (sound.run moves) shown
    cases onShow.symm.trans onShow'
    have flag := remembers.flag q here
    refine ⟨frame, onShow, fun pixel which => ?_⟩
    have stands : Padlock.StandsIn pixel (Padlock.rows after.locked q.screen.everLocked) := by
      simp only [List.mem_cons, List.not_mem_nil, or_false] at which
      obtain rfl | rfl := which
      · exact stands
      · rw [report]
        exact standsIn_report size stands
    refine ⟨fun locked => ?_, fun unlocked since => ?_, fun unlocked never => ?_⟩
    · rw [locked] at stands
      exact stands
    · rw [unlocked, flag.mpr since] at stands
      exact stands
    · rw [unlocked, Bool.eq_false_iff.mpr (flag.not.mpr never)] at stands
      have dark : ∀ x < 5, ∀ y < 6, Bitmap.bitFromLeft (Padlock.absent.getD y 0) x = false := by
        decide
      intro x hx y hy
      exact (stands x hx y hy).trans (dark x hx y hy)
  · intro feed p member
    exact ⟨builtinPlugins_orderly feed p member, builtinPlugins_discreet feed p member⟩

/-- Within its budget an enabled plugin goes on with its history. -/
theorem not_renews_of_early (h : c.Sound)
    (early : c.active.any (fun p => p.enabledBy mask &&
      decide (min (c.ticks + 1) tickLimit < p.screen.tempo.budget.toNat)) = true) :
    ¬ c.Renews i (.tick studio key mask) := by
  obtain ⟨p, found, within⟩ := (Option.any_eq_true ..).mp early
  obtain ⟨enabled, early⟩ := (Bool.and_eq_true ..).mp within
  rintro (nothing | ⟨rotates, -⟩)
  · rw [disabled_of_none found nothing] at enabled
    cases enabled
  · obtain disabled | ⟨due, -⟩ := (rotates_iff studio key mask h found).mp rotates
    · rw [disabled] at enabled
      cases enabled
    · exact Nat.not_lt.mpr due (of_decide_eq_true early)

theorem trio_discreet : ∀ p ∈ trio, p.Discreet := by
  intro p member
  simp only [trio, List.mem_cons, List.not_mem_nil, or_false] at member
  obtain rfl | rfl | rfl := member
  · exact Script.plugin_discreet _ _ fun _ given => absurd given List.not_mem_nil
  · refine Script.plugin_discreet _ _ fun actions given action listed => ?_
    obtain rfl : actions = [] := by simpa using given
    exact absurd listed List.not_mem_nil
  · exact Script.plugin_discreet _ _ fun _ given => absurd given List.not_mem_nil

/-- The second plugin is locked in a tick that is blanked, because its redraw fails, and
unlocked in the next: the open padlock is on display. -/
theorem tick_padlock_trio :
    (∀ p ∈ trio, p.Orderly ∧ p.Discreet) ∧
      ¬ (trioAfter [.tick default "" 7, .tick default "L2" 7]).Blanked default "L2" 7 ∧
      ∃ frame, ((trioAfter [.tick default "" 7, .tick default "L2" 7]).tick
          default "L2" 7).1.frame = some frame ∧
        Padlock.StandsIn frame.getPixel Padlock.opened := by
  have fit : ∀ p ∈ trio, p.Orderly ∧ p.Discreet :=
    fun p member => ⟨trio_orderly p member, trio_discreet p member⟩
  have loaded := loaded_trioAfter [.tick default "" 7, .tick default "L2" 7]
  have done : ((trioAfter [.tick default "" 7, .tick default "L2" 7]).compose
      default "L2" 7).2.2.isSome = false := by
    decide +kernel
  have shown : ¬ (trioAfter [.tick default "" 7, .tick default "L2" 7]).Blanked default "L2" 7 := by
    rintro (empty | failed)
    · exact loaded empty
    · rw [done] at failed
      cases failed
  have unlocked : ((trioAfter [.tick default "" 7, .tick default "L2" 7]).tick
      default "L2" 7).1.locked = false := by
    decide +kernel
  have place : ((trioAfter [.tick default "" 7, .tick default "L2" 7]).tick
      default "L2" 7).1.current = 1 := by
    decide +kernel
  have result := tick_padlock.1 fit ⟨"", ""⟩ default
    [.tick default "" 7, .tick default "L2" 7] default "L2" 7
  dsimp only at result
  rw [← trioAfter] at result
  obtain ⟨frame, onShow, stands⟩ := result shown
  refine ⟨fit, shown, frame, onShow, (stands _ List.mem_cons_self).2.1 unlocked ?_⟩
  rw [place]
  have sound (moves : List Move) : (trioAfter moves).Sound :=
    (reachable_trioAfter moves).sound trio_orderly
  refine ⟨[.tick default "" 7], .tick default "L2" 7, [.tick default "L2" 7], rfl, ?_, ?_, ?_, ?_⟩
  · exact ⟨rfl, by decide +kernel, by decide +kernel⟩
  · exact not_renews_of_early (sound [.tick default "" 7]) (by decide +kernel)
  · exact not_renews_of_early (sound [.tick default "" 7, .tick default "L2" 7]) (by decide +kernel)
  · trivial

end Shown

end Carousel

end LcdCompositor
