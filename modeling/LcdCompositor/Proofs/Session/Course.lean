import LcdCompositor.Formats
import LcdCompositor.Proofs.Carousel.Outcome
import LcdCompositor.Proofs.Carousel.Rotation
import LcdCompositor.Proofs.Settings.Validity

/-!
# The course of a session

A session that gets as far as its ticks takes one tick of the carousel for every key, until it
has no more keys or the machine stops. No tick touches a file or a sheet that is to be had, and
the only reading of the feed stays where it is. So the machine stops in a session exactly when
the monitor comes on display and the transmit rate that the settings come to is too long for the
font of the rates.
-/

namespace LcdCompositor

namespace Stage

section Step

variable {σ : Type} (s : Stage σ)

/-- What becomes an event leaves the log, and nothing else changes. -/
theorem alike_collect : s.collect.studio.Alike s.studio := ⟨rfl, rfl⟩

theorem alike_report (level : Level) (text : String) :
    (s.report level text).studio.Alike s.studio := ⟨rfl, rfl⟩

@[simp] theorem carousel_report (level : Level) (text : String) :
    (s.report level text).carousel = s.carousel := rfl

@[simp] theorem files_report (level : Level) (text : String) :
    (s.report level text).studio.files = s.studio.files := rfl

theorem carousel_tryFont (font : Font) : (s.tryFont font).carousel = s.carousel := by
  rw [tryFont]
  split <;> rfl

theorem stop_tryFont (font : Font) : (s.tryFont font).stop = s.stop := by
  rw [tryFont]
  split <;> rfl

theorem offer_tryFont (font : Font) : (s.tryFont font).studio.offer = s.studio.offer := by
  have asked := s.studio.offer_sheet font
  rw [tryFont]
  split
  next sheet after result =>
    rw [result] at asked
    exact (alike_collect _).offer.trans asked
  next fault after result =>
    rw [result] at asked
    exact (alike_report _ _ _).offer.trans asked

/-- One tick of the carousel leads from a stage to another. -/
structure Steps (settings : Settings) (key : String) (s t : Stage σ) : Prop where
  carousel : t.carousel = (s.carousel.tick s.studio key settings.pluginsMask).1
  studio : t.studio.Alike (s.carousel.tick s.studio key settings.pluginsMask).2.1
  stop : t.stop = (s.carousel.tick s.studio key settings.pluginsMask).2.2

theorem steps_tick (settings : Settings) (key : String) :
    s.Steps settings key (s.tick settings key) := by
  rw [tick]
  dsimp only
  split <;> exact ⟨rfl, ⟨rfl, rfl⟩, rfl⟩

/-- So many ticks with these keys, one after the other, lead from a stage to another. None is
taken once the machine has stopped. -/
inductive Turns (settings : Settings) : List String → Stage σ → Stage σ → Prop
  | done (s : Stage σ) : Turns settings [] s s
  | tick {key : String} {keys : List String} {s t : Stage σ} (running : s.stop = none)
      (rest : Turns settings keys (s.tick settings key) t) : Turns settings (key :: keys) s t

variable {s} {t : Stage σ} {settings : Settings} {key : String} {keys : List String}

/-- There are no ticks from where the machine has stopped. -/
theorem Turns.of_stopped (h : Turns settings keys s t) (stopped : s.stop ≠ none) : keys = [] := by
  cases h with
  | done => rfl
  | tick running _ => exact absurd running stopped

/-- The last of some ticks. -/
theorem Turns.last (h : Turns settings (key :: keys) s t) :
    ∃ before others final, Turns settings others s before ∧ before.stop = none ∧
      t = before.tick settings final := by
  induction keys generalizing s key with
  | nil =>
    cases h with
    | tick running rest =>
      cases rest
      exact ⟨s, [], key, .done s, running, rfl⟩
  | cons next keys ih =>
    cases h with
    | tick running rest =>
      obtain ⟨before, others, final, turned, stillRunning, last⟩ := ih rest
      exact ⟨before, key :: others, final, .tick running turned, stillRunning, last⟩

/-- A session takes a tick for every key, or for the keys up to one in whose tick the machine
stops. -/
theorem play_turns (settings : Settings) (running : s.stop = none) (keys : List String) :
    ∃ made, Turns settings made s (s.play settings keys) ∧ made <+: keys ∧
      (made = [] → keys = []) ∧ ((s.play settings keys).stop = none → made = keys) := by
  induction keys generalizing s with
  | nil => exact ⟨[], .done s, List.nil_prefix, fun _ => rfl, fun _ => rfl⟩
  | cons key keys ih =>
    rw [play]
    split
    next stopped =>
      refine ⟨[key], .tick running (.done _), List.prefix_append [key] keys, nofun, fun none => ?_⟩
      rw [none] at stopped
      cases stopped
    next going =>
      rw [Option.not_isSome_iff_eq_none] at going
      obtain ⟨made, turned, early, -, whole⟩ := ih going
      exact ⟨key :: made, .tick running turned, List.cons_prefix_cons.mpr ⟨rfl, early⟩, nofun,
        fun none => congrArg _ (whole none)⟩

end Step

/-- The monitor has come on display with a rate that is too long for its font. -/
structure Overlong (settings : Settings) (reading : Snapshot) (s : Stage SensorFeed) : Prop where
  enabled : s.carousel.hasEnabled settings.pluginsMask = true
  monitor : ∃ q, s.carousel.active = some q ∧ SystemMonitor.IsMonitor q
  font : s.studio.answers .mono5x8 ≠ none
  long : 13106 < reading.transmitRate.toList.length

/-- A stage of a session over the built-in plugins, with one reading in its feed. -/
structure Underway (reading : Snapshot) (first s : Stage SensorFeed) : Prop where
  reachable : Carousel.Reachable (builtinPlugins ⟨[reading]⟩) s.carousel
  evolved : first.carousel.Evolves s.carousel
  offer : s.studio.offer = first.studio.offer

section Underway

variable {reading : Snapshot} {first s t : Stage SensorFeed} {settings : Settings} {key : String}
  {keys : List String}

theorem underway_start (settings : Settings) (files : FileTree) (reading : Snapshot) :
    let first := start settings files (builtinPlugins ⟨[reading]⟩)
    Underway reading first first :=
  ⟨.start _ _, .refl _, rfl⟩

/-- A session starts without any sheets. -/
theorem offer_start (settings : Settings) (files : FileTree) (reading : Snapshot) :
    (start settings files (builtinPlugins ⟨[reading]⟩)).studio.offer =
      Studio.offer ⟨files, FontCache.empty settings.dataDirectory, []⟩ := by
  have loaded := Carousel.view_start (fun _ _ => Studio.Alike.offer)
    (builtinPlugins_keep ⟨[reading]⟩) ⟨settings.dataDirectory, settings.productName⟩
    (Studio.report ⟨files, FontCache.empty settings.dataDirectory, []⟩ .info
      s!"data directory {settings.dataDirectory}")
  rw [Studio.offer_report] at loaded
  exact ((alike_collect _).offer.trans loaded)

theorem genuine_start (settings : Settings) (files : FileTree) (reading : Snapshot) :
    GenuineSheets (start settings files (builtinPlugins ⟨[reading]⟩)).studio.answers := by
  have answers := congrArg Prod.snd (offer_start settings files reading)
  dsimp only [Studio.offer] at answers
  rw [answers]
  exact Studio.genuine_answers (FontCache.genuine_empty _)

namespace Underway

theorem sound (h : Underway reading first s) : s.carousel.Sound :=
  h.reachable.sound (builtinPlugins_orderly ⟨[reading]⟩)

theorem of_same (h : Underway reading first s) (carousel : t.carousel = s.carousel)
    (offer : t.studio.offer = s.studio.offer) : Underway reading first t where
  reachable := carousel ▸ h.reachable
  evolved := carousel ▸ h.evolved
  offer := offer.trans h.offer

theorem steps (h : Underway reading first s) (step : s.Steps settings key t) :
    Underway reading first t where
  reachable := step.carousel ▸ h.reachable.tick s.studio key settings.pluginsMask
  evolved := step.carousel ▸ h.evolved.trans (Carousel.evolves_tick _ _ _ h.sound)
  offer := by
    have keep := h.reachable.behaviours (P := (·.Keeps Studio.offer))
      (builtinPlugins_orderly ⟨[reading]⟩) (builtinPlugins_keep ⟨[reading]⟩)
    rw [step.studio.offer, Carousel.view_tick _ _ _ (fun _ _ => Studio.Alike.offer) h.sound keep,
      h.offer]

theorem turns (h : Underway reading first s) (turned : Turns settings keys s t) :
    Underway reading first t := by
  induction turned with
  | done s => exact h
  | tick running rest ih => exact ih (h.steps (steps_tick ..))

/-- The machine stops in a tick exactly if the monitor comes on display in it with a rate that is
too long for its font. -/
theorem stop_ne_none_iff (h : Underway reading first s)
    (genuine : GenuineSheets first.studio.answers) (step : s.Steps settings key t) :
    t.stop ≠ none ↔ t.Overlong settings reading := by
  have before : s.studio.answers = first.studio.answers := congrArg Prod.snd h.offer
  have after : t.studio.answers = first.studio.answers := congrArg Prod.snd (h.steps step).offer
  have sound := h.sound
  have remembered {old : Plugin SensorFeed} {i : Nat} (here : s.carousel.plugins[i]? = some old) :
      old.memory.sample.1 = reading := by
    rw [Carousel.memory_of_builtin h.reachable old (List.mem_of_getElem? here)]
    rfl
  have wide := SystemMonitor.rateStop_ne_none_iff genuine reading
  have enabled := (Carousel.evolves_tick s.studio key settings.pluginsMask sound).hasEnabled
    settings.pluginsMask
  constructor
  · intro stopped
    obtain ⟨stop, stopped⟩ := Option.ne_none_iff_exists'.mp stopped
    rw [step.stop, Carousel.stop_tick_iff_monitor h.reachable] at stopped
    obtain ⟨some, q, old, onShow, monitor, here, stopped⟩ := stopped
    rw [remembered here, before] at stopped
    obtain ⟨font, long⟩ := wide.mp (Option.ne_none_iff_exists'.mpr ⟨stop, stopped⟩)
    refine ⟨?_, ⟨q, ?_, monitor⟩, after ▸ font, long⟩
    · rw [step.carousel, enabled, some]
    · rw [step.carousel, onShow]
  · rintro ⟨some, ⟨q, onShow, monitor⟩, font, long⟩
    rw [step.carousel] at some onShow
    rw [enabled] at some
    rw [after] at font
    obtain ⟨old, frame, here, -, ending, -⟩ := Carousel.portrait_tick sound some onShow monitor
    rw [step.stop, ending, remembered here, before]
    exact wide.mpr ⟨font, long⟩

end Underway

end Underway

end Stage

section Session

theorem Settings.length_keys (settings : Settings) : settings.keys.length = settings.ticks := by
  rw [keys, List.length_map, List.length_range]

/-- The stage of a session in front of its first tick. -/
def opened (layer : Layer) (e : Environment) : Stage SensorFeed :=
  (Font.all.foldl Stage.tryFont (Stage.start layer.settings e.files
    (builtinPlugins ⟨[layer.snapshot e.hostname]⟩))).warnOfMask layer.settings

variable {formats : Formats} {arguments keys : List String} {e : Environment} {o : Options}
  {layer : Layer} {last : Stage SensorFeed}

/-- A session that is not asked for anything else plays. -/
theorem run_eq (parsed : formats.readArguments arguments = .ok o)
    (loaded : Layer.load formats.readLayer o true e = .ok layer)
    (playing : o.listPlugins = false) (notDumping : o.dumpConfig = false) :
    run formats arguments e = ((opened layer e).play layer.settings layer.settings.keys).conclude
      layer.settings layer.logFilter := by
  rw [run, parsed]
  dsimp only
  rw [loaded]
  dsimp only
  rw [if_neg (by simp [notDumping]), runLoaded, if_neg (by simp [playing]), opened]

section Opened

variable (layer : Layer) (e : Environment)

/-- In front of the first tick fonts are tried and a warning may be given. What neither of the two
touches is as it was at the start. -/
theorem view_opened {α : Type} (view : Stage SensorFeed → α)
    (tries : ∀ s font, view (s.tryFont font) = view s)
    (reports : ∀ s level text, view (s.report level text) = view s) :
    view (opened layer e) = view (Stage.start layer.settings e.files
      (builtinPlugins ⟨[layer.snapshot e.hostname]⟩)) := by
  have tried (fonts : List Font) (s : Stage SensorFeed) :
      view (fonts.foldl Stage.tryFont s) = view s := by
    induction fonts generalizing s with
    | nil => rfl
    | cons font rest ih => exact (ih _).trans (tries s font)
  have warned (s : Stage SensorFeed) : view (s.warnOfMask layer.settings) = view s := by
    rw [Stage.warnOfMask]
    split
    · rfl
    · exact reports s ..
  rw [opened, warned, tried]

theorem carousel_opened : (opened layer e).carousel = (Stage.start layer.settings e.files
    (builtinPlugins ⟨[layer.snapshot e.hostname]⟩)).carousel :=
  view_opened layer e (·.carousel) Stage.carousel_tryFont Stage.carousel_report

theorem stop_opened : (opened layer e).stop = none :=
  view_opened layer e (·.stop) Stage.stop_tryFont fun _ _ _ => rfl

theorem underway_opened :
    Stage.Underway (layer.snapshot e.hostname)
      (Stage.start layer.settings e.files (builtinPlugins ⟨[layer.snapshot e.hostname]⟩))
      (opened layer e) :=
  (Stage.underway_start ..).of_same (carousel_opened layer e)
    (view_opened layer e (·.studio.offer) Stage.offer_tryFont
      fun s level text => (s.alike_report level text).offer)

end Opened

/-- The stages that a session goes through from its first tick on: it ends with a tick, and with
the last one that is due unless the machine stops before, when the monitor has come on display
with a rate that is too long. -/
theorem exists_turns (layer : Layer) (e : Environment) (ticks : 0 < layer.settings.ticks) :
    let last := (opened layer e).play layer.settings layer.settings.keys
    ∃ key others, Stage.Turns layer.settings (key :: others) (opened layer e) last ∧
      key :: others <+: layer.settings.keys ∧
      (last.stop = none → key :: others = layer.settings.keys) ∧
      (last.stop ≠ none ↔ last.Overlong layer.settings (layer.snapshot e.hostname)) := by
  intro last
  obtain ⟨made, turned, early, some, whole⟩ :=
    Stage.play_turns layer.settings (stop_opened layer e) layer.settings.keys
  cases made with
  | nil =>
    have length := layer.settings.length_keys
    rw [some rfl, List.length_nil] at length
    omega
  | cons key others =>
    refine ⟨key, others, turned, early, whole, ?_⟩
    obtain ⟨before, keys, final, earlier, -, ended⟩ := turned.last
    have underway := (underway_opened layer e).turns earlier
    have step := before.steps_tick layer.settings final
    rw [← ended] at step
    exact underway.stop_ne_none_iff (Stage.genuine_start _ _ _) step

/-- No tick touches a file. -/
theorem files_turns (turned : Stage.Turns layer.settings keys (opened layer e) last) :
    last.studio.files = e.files := by
  have offer := ((underway_opened layer e).turns turned).offer
  rw [Stage.offer_start] at offer
  exact congrArg Prod.fst offer

/-- A session whose monitor comes on display with a rate that is too long ends there and then, and
writes nothing. -/
theorem run_of_overlong (parsed : formats.readArguments arguments = .ok o)
    (loaded : Layer.load formats.readLayer o true e = .ok layer)
    (playing : o.listPlugins = false) (notDumping : o.dumpConfig = false)
    (overlong : ((opened layer e).play layer.settings layer.settings.keys).Overlong layer.settings
      (layer.snapshot e.hostname)) :
    (run formats arguments e).exitCode = 101 ∧ (run formats arguments e).files = e.files := by
  obtain ⟨key, others, turned, -, -, long⟩ :=
    exists_turns layer e (Layer.ticks_pos (Layer.invalidities_of_load loaded))
  have files := files_turns turned
  rw [run_eq parsed loaded playing notDumping, Stage.conclude]
  cases ended : ((opened layer e).play layer.settings layer.settings.keys).stop with
  | none => exact absurd ended (long.mpr overlong)
  | some stop => exact ⟨rfl, files⟩

section Alone

variable {key : String} (alone : layer.settings.pluginsMask = SystemMonitor.identity.id)
  (font : Studio.answers ⟨e.files, FontCache.empty layer.settings.dataDirectory, []⟩ .mono5x8 ≠
    none)
  (long : 13106 < (layer.snapshot e.hostname).transmitRate.toList.length)
include alone font long

/-- Where nobody but the monitor is enabled, every tick leaves it on display. -/
theorem overlong_of_turns
    (turned : Stage.Turns layer.settings (key :: keys) (opened layer e) last) :
    last.Overlong layer.settings (layer.snapshot e.hostname) := by
  obtain ⟨before, others, final, earlier, -, rfl⟩ := turned.last
  have underway := (underway_opened layer e).turns earlier
  have step := before.steps_tick layer.settings final
  have later := underway.steps step
  obtain ⟨somebody, -⟩ := Carousel.enabledBy_monitor underway.reachable
  obtain ⟨enabled, only⟩ := Carousel.enabledBy_monitor later.reachable
  have shown := Carousel.enabledAt_tick before.studio final _ underway.sound (alone ▸ somebody)
  rw [← step.carousel, alone] at shown
  obtain ⟨q, onShow, mine⟩ := (Option.any_eq_true ..).mp shown
  refine ⟨alone ▸ enabled, ⟨q, onShow, only q (List.mem_of_getElem? onShow) mine⟩, ?_, long⟩
  have answers : (before.tick layer.settings final).studio.answers = _ :=
    congrArg Prod.snd (later.offer.trans (Stage.offer_start ..))
  rwa [answers]

/-- And with a font and a rate that is too long for it a session has only its first tick. -/
theorem turns_of_alone (ticks : layer.settings.keys = key :: keys) :
    let last := (opened layer e).play layer.settings layer.settings.keys
    (opened layer e).Turns layer.settings [key] last ∧
      last.Overlong layer.settings (layer.snapshot e.hostname) := by
  intro last
  have only {made : List String} {final : Stage SensorFeed}
      (turned : (opened layer e).Turns layer.settings (key :: made) final) : made = [] := by
    cases turned with
    | tick running rest =>
      have first : (opened layer e).Turns layer.settings [key]
          (Stage.tick layer.settings (opened layer e) key) := .tick running (.done _)
      have step := (opened layer e).steps_tick layer.settings key
      have stops := (underway_opened layer e).stop_ne_none_iff (Stage.genuine_start _ _ _) step
      exact rest.of_stopped (stops.mpr (overlong_of_turns alone font long first))
  have some : 0 < layer.settings.ticks := by
    rw [← layer.settings.length_keys, ticks]
    exact Nat.zero_lt_succ _
  obtain ⟨first, others, turned, early, -⟩ := exists_turns layer e some
  rw [ticks] at early
  obtain ⟨rfl, -⟩ := List.cons_prefix_cons.mp early
  obtain rfl := only turned
  exact ⟨turned, overlong_of_turns alone font long turned⟩

end Alone

end Session

section Rate

/-- The rate that is sent, and nothing else. -/
def rateFile (rate : String) : Layer :=
  { Layer.empty with sensors := some { SensorLayer.empty with transmitRate := some rate } }

/-- The formats of the program, but for configuration files that hold a rate and nothing else. -/
def rateFormats : Formats := { Formats.standard with readLayer := fun text => .ok (rateFile text) }

/-- A command line that asks for two ticks of the monitor alone, with the lock in the second, and
for both files. -/
def rateLine : List String :=
  ["--config", "rate", "--plugins-mask", "2", "--ticks", "2", "--lock-tick", "2",
    "--dump-buffer", "report.bin", "--dump-frame", "frame.pbm"]

/-- What it means. -/
def rateOptions : Options :=
  { Options.empty with
    config := some "rate", pluginsMask := some 2, ticks := some 2, lockTick := some 2,
    dumpBuffer := some "report.bin", dumpFrame := some "frame.pbm" }

/-- A rate of 13107 letters. -/
def longRate : String := (SystemMonitor.letters 13107).sample.1.transmitRate

/-- A directory with this rate in a file, and with a dark sheet to write it in. -/
def rateDesk : Environment where
  files := ⟨[(["rate"], .file longRate.toByteArray.data.toList), (["data"], .directory),
    (["data", "monospace85.pbm"],
      .file (Netpbm.asciiBytes "P4\n80 48\n" ++ List.replicate 480 0))], []⟩
  home := none
  hostname := none

/-- What the line and a rate come to. -/
def rateLayer (rate : String) : Layer := rateOptions.layered (rateFile rate)

theorem load_rate {e : Environment} {rate : String} (there : e.files.contains "rate" = true)
    (bytes : e.files.read "rate" = .ok rate.toByteArray.data.toList)
    (valid : (rateLayer rate).Valid) :
    Layer.load rateFormats.readLayer rateOptions true e = .ok (rateLayer rate) := by
  have read : Layer.ofSource rateFormats.readLayer e.files (some "rate") =
      .ok (rateFile rate) := by
    rw [Layer.ofSource, Layer.read, bytes]
    change (textOf _).bind _ = _
    rw [textOf_bytes]
    rfl
  exact (Layer.load_eq_ok_iff ⟨_, .named rfl there, read⟩).mpr ⟨valid, rfl⟩

theorem load_longRate :
    Layer.load rateFormats.readLayer rateOptions true rateDesk = .ok (rateLayer longRate) := by
  have located : rateDesk.files.locate "rate" = .ok ["rate"] := by decide +kernel
  have plain : FileTree.asksDirectory "rate" = false := by decide +kernel
  have bytes : rateDesk.files.read "rate" = .ok longRate.toByteArray.data.toList := by
    rw [FileTree.read, located]
    change (if FileTree.asksDirectory "rate" then _ else _) = _
    rw [plain]
    rfl
  have sound : (rateLayer longRate).invalidities = [] := by decide +kernel
  exact load_rate (by rw [FileTree.contains, bytes]) bytes
    (Layer.invalidities_eq_nil_iff.mp sound)

theorem transmitRate_rateLayer (rate : String) (hostname : Option String) :
    ((rateLayer rate).snapshot hostname).transmitRate = rate := rfl

/-- The session of this line in this directory comes to one tick, in which the machine stops. -/
theorem turns_longRate :
    let settings := (rateLayer longRate).settings
    let last := (opened (rateLayer longRate) rateDesk).play settings settings.keys
    (opened (rateLayer longRate) rateDesk).Turns settings [""] last ∧
      last.Overlong settings ((rateLayer longRate).snapshot rateDesk.hostname) := by
  intro settings last
  have font : (Studio.answers ⟨rateDesk.files, FontCache.empty "data", []⟩ .mono5x8).isSome =
      true := by decide +kernel
  replace font := Option.isSome_iff_ne_none.mp font
  have long : 13106 < longRate.toList.length :=
    Nat.lt_of_lt_of_eq (by decide) (SystemMonitor.length_letters 13107).symm
  rw [← transmitRate_rateLayer longRate rateDesk.hostname] at long
  have keys : settings.keys = ["", Panel.lockKey] := by decide +kernel
  exact turns_of_alone rfl font long keys

end Rate

end LcdCompositor
