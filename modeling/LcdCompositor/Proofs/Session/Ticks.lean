import LcdCompositor.Formats
import LcdCompositor.Proofs.Session.Course

/-!
# How many ticks a session has

A session that gets as far as its ticks makes exactly as many as are set, and at least
one, unless the machine stops in one of them. The lock key is pressed in one of them if a
tick is set for it, and that tick is always one that is due. In real time every tick that
comes to its end is followed by one pause, so whoever watches the session can count them.
-/

namespace LcdCompositor

/-- Whether an event is a pause. -/
def Event.isPause : Event → Bool
  | .pause _ => true
  | .log _ => false

namespace Settings

variable (settings : Settings)

/-- The key that is pressed in a tick of the session. -/
theorem getElem?_keys {i : Nat} (inside : i < settings.ticks) :
    settings.keys[i]? =
      some (if settings.lockTick = some (i + 1) then Panel.lockKey else "") := by
  rw [keys, List.getElem?_map, List.getElem?_range inside, Option.map_some]

/-- The lock key is pressed in the tick that is set for it and in no other. -/
theorem lockKey_iff (within : ∀ tick ∈ settings.lockTick, tick ≤ settings.ticks) (i : Nat) :
    settings.keys[i]? = some Panel.lockKey ↔ settings.lockTick = some (i + 1) := by
  constructor
  · intro pressed
    obtain ⟨inside, -⟩ := List.getElem?_eq_some_iff.mp pressed
    rw [length_keys] at inside
    by_contra unset
    rw [getElem?_keys settings inside, if_neg unset] at pressed
    exact absurd (Option.some.inj pressed) (by decide)
  · intro set
    rw [getElem?_keys settings (within (i + 1) set), if_pos set]

theorem key_eq_or_empty {key : String} (member : key ∈ settings.keys) :
    key = Panel.lockKey ∨ key = "" := by
  obtain ⟨i, -, rfl⟩ := List.mem_map.mp member
  split
  · exact .inl rfl
  · exact .inr rfl

end Settings

namespace Stage

section Pauses

variable {σ : Type} (s : Stage σ)

/-- The pauses so far. -/
def pauses : Nat := s.events.countP Event.isPause

theorem pauses_collect : s.collect.pauses = s.pauses := by
  have none (records : List Record) : (records.map Event.log).reverse.countP Event.isPause = 0 := by
    rw [List.countP_reverse, List.countP_map, List.countP_eq_zero]
    exact fun _ _ => Bool.false_ne_true
  rw [pauses, collect]
  dsimp only
  rw [List.countP_append, none, zero_add, pauses]

theorem pauses_report (level : Level) (text : String) :
    (s.report level text).pauses = s.pauses := pauses_collect _

theorem pauses_tryFont (font : Font) : (s.tryFont font).pauses = s.pauses := by
  rw [tryFont]
  split
  · exact pauses_collect _
  · exact pauses_report ..

theorem pauses_pause (milliseconds : Nat) :
    { s with events := .pause milliseconds :: s.events }.pauses = s.pauses + 1 :=
  List.countP_cons_of_pos rfl

/-- A tick that comes to its end brings one pause in real time, and none otherwise. -/
theorem pauses_tick (settings : Settings) (key : String) :
    (s.tick settings key).pauses =
      s.pauses + if settings.realtime && (s.tick settings key).stop.isNone then 1 else 0 := by
  have stop := (s.steps_tick settings key).stop
  rw [stop, tick]
  dsimp only
  split
  · exact (pauses_pause ..).trans (congrArg (· + 1) (pauses_collect _))
  · exact pauses_collect _

/-- So many ticks bring so many pauses, except for a last one in which the machine stops. -/
theorem pauses_turns {s t : Stage σ} {settings : Settings} {keys : List String}
    (turned : Turns settings keys s t) (running : s.stop = none) :
    t.pauses = s.pauses + if settings.realtime then
      keys.length - (if t.stop.isSome then 1 else 0) else 0 := by
  induction turned with
  | done s => simp [running]
  | @tick key keys s t _ rest ih =>
    have one := s.pauses_tick settings key
    cases rest with
    | done =>
      rw [one]
      cases settings.realtime <;> cases (s.tick settings key).stop <;> rfl
    | tick going later =>
      rw [ih going, one, going]
      cases settings.realtime
      · rfl
      · simp only [List.length_cons, Option.isNone_none, Bool.and_true, if_true]
        split <;> omega

theorem pauses_save (undertaking what path : String) (bytes : List UInt8) :
    (s.save undertaking what path bytes).1.pauses = s.pauses := by
  rw [save]
  split
  · rfl
  · exact pauses_report ..

theorem pauses_saveAll (settings : Settings) : (s.saveAll settings).1.pauses = s.pauses := by
  have report : (s.saveReport settings).1.pauses = s.pauses := by
    rw [saveReport]
    split
    · rfl
    · exact s.pauses_save ..
  have frame (t : Stage σ) : (t.saveFrame settings).1.pauses = t.pauses := by
    rw [saveFrame]
    split
    · rfl
    · exact t.pauses_report ..
    · exact t.pauses_save ..
  rw [saveAll]
  split
  next t failure result => rwa [result] at report
  next t result =>
    rw [result] at report
    exact (frame t).trans report

/-- The filter of the log lets every pause through. -/
theorem countP_close (filter : String) (exitCode : Nat) (output : String)
    (failure : Option String) :
    (s.close filter exitCode output failure).events.countP Event.isPause = s.pauses := by
  rw [close, pauses]
  dsimp only
  rw [List.countP_filter, List.countP_reverse]
  congr 1
  funext event
  cases event <;> simp [Event.isPause]

theorem countP_conclude (settings : Settings) (filter : String) :
    (s.conclude settings filter).events.countP Event.isPause = s.pauses := by
  have saved : ((s.summarise settings).saveAll settings).1.pauses = s.pauses := by
    rw [pauses_saveAll, summarise, pauses_report]
  rw [conclude]
  split
  · exact s.countP_close ..
  · generalize (s.summarise settings).saveAll settings = after at saved
    exact (after.1.countP_close ..).trans saved

/-- A session says by its exit code whether the machine has stopped. -/
theorem exitCode_conclude (settings : Settings) (filter : String) :
    (s.conclude settings filter).exitCode = 101 ↔ s.stop ≠ none := by
  rw [conclude]
  cases s.stop with
  | some stop => simp [abort, close]
  | none =>
    dsimp only [finish, close]
    split <;> simp

end Pauses

end Stage

section Session

variable {layer : Layer} {e : Environment}

theorem pauses_opened (layer : Layer) (e : Environment) : (opened layer e).pauses = 0 := by
  rw [view_opened layer e Stage.pauses Stage.pauses_tryFont Stage.pauses_report, Stage.start]
  exact Stage.pauses_collect _

/-- Layers are accepted exactly if what they come to is valid, whatever reads a configuration
file. A tick of a session is one tick of the carousel, with a key and the mask. A session with
accepted layers that is not asked for anything else makes one for every key, and there are as
many keys as ticks are set, and at least one; in real time every tick is followed by a pause. The
lock key is pressed in the tick that is set for it, and no key in any other. Only a machine that
stops keeps a session from the ticks that are still due, and it stops exactly when the monitor has
come on display with a font for its rates and more than 13106 characters of the rate that is
sent. -/
theorem session_ticks (formats : Formats) (o : Options) (e : Environment) :
    (∀ search file layer, e.Supplies formats.readLayer o search file →
      (Layer.load formats.readLayer o search e = .ok layer ↔
        (o.layered file).Valid ∧ layer = o.layered file)) ∧
    (∀ (settings : Settings) (s : Stage SensorFeed) (key : String),
      s.Steps settings key (s.tick settings key)) ∧
    ∀ arguments layer, formats.readArguments arguments = .ok o →
      Layer.load formats.readLayer o true e = .ok layer → o.listPlugins = false →
      o.dumpConfig = false →
      let settings := layer.settings
      let reading := layer.snapshot e.hostname
      (settings.keys.length = settings.ticks ∧ 1 ≤ settings.ticks) ∧
      (∀ i, settings.keys[i]? = some Panel.lockKey ↔ settings.lockTick = some (i + 1)) ∧
      (∀ tick ∈ settings.lockTick, 1 ≤ tick ∧ tick ≤ settings.ticks) ∧
      (∀ key ∈ settings.keys, key = Panel.lockKey ∨ key = "") ∧
      (opened layer e).carousel =
        (Stage.start settings e.files (builtinPlugins ⟨[reading]⟩)).carousel ∧
      ∃ made last, (opened layer e).Turns settings made last ∧
        run formats arguments e = last.conclude settings layer.logFilter ∧
        made ≠ [] ∧ made <+: settings.keys ∧
        (last.stop = none → made = settings.keys) ∧
        (last.stop ≠ none ↔ last.Overlong settings reading) ∧
        ((run formats arguments e).exitCode = 101 ↔ last.stop ≠ none) ∧
        (run formats arguments e).events.countP Event.isPause =
          if settings.realtime then made.length - (if last.stop.isSome then 1 else 0) else 0 := by
  refine ⟨fun search file layer => Layer.load_eq_ok_iff,
    fun settings s key => s.steps_tick settings key, ?_⟩
  intro arguments layer parsed loaded playing notDumping settings reading
  have ran := run_eq parsed loaded playing notDumping
  have sound := Layer.invalidities_of_load loaded
  have ticks := Layer.ticks_pos sound
  have within : ∀ tick ∈ settings.lockTick, 1 ≤ tick ∧ tick ≤ settings.ticks := by
    have lockTick : settings.lockTick = layer.panel (·.lockTick) :=
      congrArg Settings.lockTick layer.settings_eq
    rw [lockTick]
    exact (Layer.invalidities_eq_nil_iff.mp sound).lockTick
  obtain ⟨key, others, turned, early, whole, long⟩ := exists_turns layer e ticks
  refine ⟨⟨settings.length_keys, ticks⟩, settings.lockKey_iff fun tick set => (within tick set).2,
    within, fun key => settings.key_eq_or_empty, carousel_opened layer e, key :: others, _, turned,
    ran, List.cons_ne_nil _ _, early, whole, long, ?_, ?_⟩
  · rw [ran, Stage.exitCode_conclude]
  · rw [ran, Stage.countP_conclude, Stage.pauses_turns turned (stop_opened layer e),
      pauses_opened, zero_add]

/-- A command line that asks for three ticks in real time, with the lock in the second. -/
def lockingLine : List String := ["--ticks", "3", "--lock-tick=2", "--realtime", "true"]

/-- What it means. -/
def locking : Options :=
  { Options.empty with ticks := some 3, lockTick := some 2, realtime := some true }

/-- In an empty directory these settings are valid, and the session keeps to them. -/
theorem session_ticks_locking :
    let e : Environment := ⟨FileTree.empty, none, none⟩
    let layer := locking.layered Layer.empty
    Formats.standard.readArguments lockingLine = .ok locking ∧
    e.Supplies readDocument locking true Layer.empty ∧ layer.Valid ∧
    Layer.load readDocument locking true e = .ok layer ∧
    (locking.listPlugins = false ∧ locking.dumpConfig = false) ∧
    layer.settings.keys.length = 3 ∧ layer.settings.keys[1]? = some Panel.lockKey ∧
    (run .standard lockingLine e).events.countP Event.isPause = 3 := by
  intro e layer
  have parsed : Formats.standard.readArguments lockingLine = .ok locking := by decide +kernel
  have loaded : Layer.load readDocument locking true e = .ok layer := by decide +kernel
  have nothing : e.Consults locking true none := .nowhere rfl (by decide +kernel)
  have supplies : e.Supplies readDocument locking true Layer.empty := ⟨none, nothing, rfl⟩
  have short : ¬ 13106 < (layer.snapshot e.hostname).transmitRate.toList.length := by
    decide +kernel
  obtain ⟨accepts, -, plays⟩ := session_ticks .standard locking e
  obtain ⟨valid, -⟩ := (accepts true Layer.empty layer supplies).mp loaded
  obtain ⟨⟨length, -⟩, pressed, -, -, -, made, last, -, -, -, -, whole, long, -, pauses⟩ :=
    plays lockingLine layer parsed loaded rfl rfl
  have ended : last.stop = none := by
    by_contra stopped
    exact short (long.mp stopped).long
  rw [whole ended, length, ended] at pauses
  exact ⟨parsed, supplies, valid, loaded, ⟨rfl, rfl⟩, length, (pressed 1).mpr rfl, pauses⟩

/-- A session with a rate of 13107 letters stops in the first of its two ticks, and the lock key
is never pressed. -/
theorem session_ticks_stopped :
    rateFormats.readArguments rateLine = .ok rateOptions ∧
      Layer.load rateFormats.readLayer rateOptions true rateDesk = .ok (rateLayer longRate) ∧
      (rateLayer longRate).settings.ticks = 2 ∧
      (rateLayer longRate).settings.lockTick = some 2 ∧
      (run rateFormats rateLine rateDesk).exitCode = 101 ∧
      ∃ last, (opened (rateLayer longRate) rateDesk).Turns (rateLayer longRate).settings [""] last ∧
        run rateFormats rateLine rateDesk =
          last.conclude (rateLayer longRate).settings (rateLayer longRate).logFilter := by
  have parsed : rateFormats.readArguments rateLine = .ok rateOptions := by decide +kernel
  obtain ⟨turned, overlong⟩ := turns_longRate
  obtain ⟨code, -⟩ := run_of_overlong parsed load_longRate rfl rfl overlong
  exact ⟨parsed, load_longRate, rfl, rfl, code, _, turned,
    run_eq parsed load_longRate rfl rfl⟩

end Session

end LcdCompositor
