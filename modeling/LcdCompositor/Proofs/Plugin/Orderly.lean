import LcdCompositor.Plugin.Builtin
import LcdCompositor.Plugin.Scripted
import LcdCompositor.Proofs.Screen.Operation

/-!
# Orderly plugins

A plugin is orderly when it touches its screen by operations alone. The built-in
plugins are, and so is every scripted one.

What a loaded plugin goes through, in a tick or in many, is an evolution: the
behaviour stays, and the screen comes from the old one by operations. Who the plugin
is, for how long it stays up and that it can be shown all survive an evolution.
-/

namespace LcdCompositor

variable {σ : Type}

/-- A behaviour that builds and redraws its screen by operations alone. -/
structure Behaviour.Orderly (b : Behaviour σ) : Prop where
  setUp : ∀ setting (scene : Scene), scene.screen.Reaches (b.setUp setting scene).1.screen
  refresh : ∀ memory (scene : Scene), scene.screen.Reaches (b.refresh memory scene).scene.screen

/-- Redraws never report a fault. -/
def Behaviour.Unfailing (b : Behaviour σ) : Prop :=
  ∀ memory scene fault, (b.refresh memory scene).interruption ≠ some (.fault fault)

namespace Plugin

/-- A plugin of orderly behaviour whose screen was made by operations on a new one. -/
structure Orderly (p : Plugin σ) : Prop where
  made : ∃ identity tempo, (Screen.new identity tempo).Reaches p.screen
  behaviour : p.behaviour.Orderly

/-- A plugin that has been set up: its screen can be shown. -/
structure Ready (p : Plugin σ) : Prop where
  showable : p.screen.Showable
  behaviour : p.behaviour.Orderly

/-- Only the screen and the memory of a plugin have changed, the screen by operations. -/
structure Evolves (p q : Plugin σ) : Prop where
  behaviour : q.behaviour = p.behaviour
  screen : p.screen.Reaches q.screen

/-- What makes a plugin the one it is: what it does, who it is and how long it stays up. -/
def kind (p : Plugin σ) : Behaviour σ × Identity × Tempo :=
  (p.behaviour, p.screen.identity, p.screen.tempo)

theorem ready_of_setUp {p q : Plugin σ} {setting : Setting} {studio after : Studio}
    (orderly : p.Orderly) (h : p.setUp setting studio = (q, after, none)) : q.Ready := by
  obtain ⟨identity, tempo, made⟩ := orderly.made
  have built := made.trans (orderly.behaviour.setUp setting ⟨p.screen, studio⟩)
  rw [setUp] at h
  split at h
  · cases h
  next scene result =>
    rw [result] at built
    split at h
    · cases h
    next screen finished =>
      cases h
      have sound : scene.screen.Sound :=
        built.invariant (fun change sound => change.sound sound)
          (Screen.sound_new identity tempo)
      exact ⟨Screen.showable_of_finish sound finished, orderly.behaviour⟩

/-- Being set up does not change the behaviour. -/
theorem behaviour_setUp (p : Plugin σ) (setting : Setting) (studio : Studio) :
    (p.setUp setting studio).1.behaviour = p.behaviour := by
  rw [setUp]
  split
  · rfl
  · split <;> rfl

/-- Nor does it change the memory. -/
theorem memory_setUp (p : Plugin σ) (setting : Setting) (studio : Studio) :
    (p.setUp setting studio).1.memory = p.memory := by
  rw [setUp]
  split
  · rfl
  · split <;> rfl

namespace Evolves

variable {p q r : Plugin σ}

theorem refl (p : Plugin σ) : p.Evolves p := ⟨rfl, .refl p.screen⟩

theorem trans (first : p.Evolves q) (second : q.Evolves r) : p.Evolves r :=
  ⟨second.behaviour.trans first.behaviour, first.screen.trans second.screen⟩

theorem enabledBy (h : p.Evolves q) (mask : UInt64) : q.enabledBy mask = p.enabledBy mask := by
  unfold Plugin.enabledBy Screen.enabledBy
  rw [h.screen.identity]

theorem kind (h : p.Evolves q) : q.kind = p.kind := by
  rw [Plugin.kind, Plugin.kind, h.behaviour, h.screen.identity, h.screen.tempo]

theorem ready (h : p.Evolves q) (ready : p.Ready) : q.Ready :=
  ⟨ready.showable.reaches h.screen, h.behaviour ▸ ready.behaviour⟩

end Evolves

theorem onScreen_evolves (p : Plugin σ) {f : Screen → Screen} (h : p.screen.Reaches (f p.screen)) :
    p.Evolves (p.onScreen f) := ⟨rfl, h⟩

/-- A redraw is an evolution, whether or not it reports a fault. -/
theorem refresh_evolves {p : Plugin σ} (orderly : p.behaviour.Orderly) (studio : Studio) :
    p.Evolves (p.refresh studio).1 := ⟨rfl, orderly.refresh p.memory ⟨p.screen, studio⟩⟩

end Plugin

section Builtin

namespace Screen.Reaches

theorem addFrame {s t : Screen} (studio : Studio) {picture : Bitmap} {count : UInt16}
    (h : s.addFrame picture count = .ok t) : s.Reaches t := by
  have step := act (s := s) studio (.addFrame picture count)
  rwa [Scene.perform, h] at step

theorem write (scene : Scene) (slot : Slot) (font : Font) (text : String) (x y : Int) :
    scene.screen.Reaches (scene.write slot font text x y).screen :=
  act scene.studio (.write slot font text x y)

theorem line (scene : Scene) (x y size : Nat) :
    scene.screen.Reaches (scene.line x y size).screen :=
  act scene.studio (.line x y size)

theorem draw {s t : Screen} {slot : Slot} {f : Bitmap → Bitmap}
    (keeps : ∀ b, (f b).size = b.size) (h : s.draw slot (fun b => .ok (f b)) = .ok t) :
    s.Reaches t := by
  obtain ⟨old, _, found, drawn, rfl⟩ := draw_eq_ok h
  cases drawn
  exact Relation.ReflTransGen.single (.rewrite slot found (keeps old))

end Screen.Reaches

theorem Splash.brand_reaches (productName : String) (scene : Scene) :
    scene.screen.Reaches (Splash.brand productName scene).screen := by
  rw [Splash.brand]
  dsimp only
  refine .trans ?_ (.write ..)
  exact .write scene .last .mono5x8 productName (-1) productRow

theorem Splash.setUp_reaches (setting : Setting) (scene : Scene) :
    scene.screen.Reaches (Splash.setUp setting scene).1.screen := by
  have loaded := Screen.Reaches.act (s := scene.screen) scene.studio
    (.addFile (FileTree.join setting.dataDirectory Panel.splashFile) logoTicks)
  rw [Scene.perform] at loaded
  rw [Splash.setUp]
  split
  next added fault result => rwa [result] at loaded
  next added result =>
    rw [result] at loaded
    split
    · exact loaded
    · split
      · exact loaded
      next logo _ screen framed =>
        have second := loaded.trans (.addFrame scene.studio framed)
        exact second.trans (brand_reaches setting.productName { added with screen })

theorem SystemMonitor.load_reaches (scene : Scene) (label : String) (percent : UInt8)
    (row : Nat) : scene.screen.Reaches (SystemMonitor.load scene label percent row).screen := by
  rw [SystemMonitor.load]
  exact ((Screen.Reaches.write ..).trans (.act _ (.bar percent.toNat barColumn row))).trans
    (Screen.Reaches.write ..)

theorem SystemMonitor.drawLoads_reaches (scene : Scene) (reading : Snapshot) :
    scene.screen.Reaches (SystemMonitor.drawLoads scene reading).screen := by
  rw [SystemMonitor.drawLoads]
  -- Backwards from the line: every shape stands on the scene before it.
  refine .trans ?_ (.line ..)
  refine .trans ?_ (load_reaches ..)
  refine .trans ?_ (load_reaches ..)
  refine .trans ?_ (.write ..)
  exact .act scene.studio .clear

theorem SystemMonitor.writeRates_reaches (scene : Scene) (reading : Snapshot) (column : Nat) :
    scene.screen.Reaches (SystemMonitor.writeRates scene reading column).screen := by
  rw [SystemMonitor.writeRates]
  refine .trans ?_ (.write ..)
  exact .write ..

theorem SystemMonitor.drawRates_reaches (scene : Scene) (reading : Snapshot) :
    scene.screen.Reaches (SystemMonitor.drawRates scene reading).1.screen := by
  rw [SystemMonitor.drawRates]
  dsimp only
  split
  · exact .refl scene.screen
  next column _ =>
    let studio := (scene.studio.textWidth .mono5x8 reading.transmitRate).2
    exact writeRates_reaches { scene with studio } reading column

theorem SystemMonitor.refresh_reaches (feed : SensorFeed) (scene : Scene) :
    scene.screen.Reaches (SystemMonitor.refresh feed scene).scene.screen := by
  rw [SystemMonitor.refresh]
  dsimp only
  refine .trans ?_ (drawRates_reaches ..)
  exact drawLoads_reaches scene feed.sample.1

theorem SystemMonitor.behaviour_orderly :
    Behaviour.Orderly ⟨SystemMonitor.setUp, SystemMonitor.refresh⟩ where
  setUp _ scene := .act scene.studio (.addBlank 0)
  refresh feed scene := by
    dsimp only
    exact refresh_reaches feed scene

theorem EndCard.setUp_reaches (setting : Setting) (scene : Scene) :
    scene.screen.Reaches (EndCard.setUp setting scene).1.screen := by
  rw [EndCard.setUp]
  split
  · exact .refl scene.screen
  next screen added =>
    have blank := Screen.Reaches.addFrame scene.studio added
    split
    · exact blank
    next bordered drawn =>
      have border := blank.trans (.draw (fun b => Bitmap.size_paintWhere ..) drawn)
      exact border.trans (.trans (.write { scene with screen := bordered } ..) (.write ..))

theorem Behaviour.still_orderly {setUp : Setting → Scene → Scene × Option Fault}
    (h : ∀ setting (scene : Scene), scene.screen.Reaches (setUp setting scene).1.screen) :
    (Behaviour.still (σ := σ) setUp).Orderly := ⟨h, fun _ scene => .refl scene.screen⟩

/-- The built-in plugins are orderly, over any feed. -/
theorem builtinPlugins_orderly (feed : SensorFeed) :
    ∀ p ∈ builtinPlugins feed, p.Orderly := by
  intro p member
  simp only [builtinPlugins, List.mem_cons, List.not_mem_nil, or_false] at member
  rcases member with rfl | rfl | rfl
  · exact ⟨⟨_, _, .refl _⟩, Behaviour.still_orderly Splash.setUp_reaches⟩
  · exact ⟨⟨_, _, .refl _⟩, SystemMonitor.behaviour_orderly⟩
  · exact ⟨⟨_, _, .refl _⟩, Behaviour.still_orderly EndCard.setUp_reaches⟩

theorem Behaviour.still_unfailing (setUp : Setting → Scene → Scene × Option Fault) :
    (Behaviour.still (σ := σ) setUp).Unfailing :=
  fun _ _ _ failed => Option.some_ne_none _ failed.symm

/-- The monitor can be stopped in a redraw, but does not report a fault. -/
theorem SystemMonitor.behaviour_unfailing :
    Behaviour.Unfailing ⟨SystemMonitor.setUp, SystemMonitor.refresh⟩ := by
  intro feed scene fault failed
  dsimp only [SystemMonitor.refresh] at failed
  obtain ⟨stop, -, isFault⟩ := Option.map_eq_some_iff.mp failed
  cases isFault

/-- No built-in plugin reports a fault when it redraws. -/
theorem builtinPlugins_unfailing (feed : SensorFeed) :
    ∀ p ∈ builtinPlugins feed, p.behaviour.Unfailing := by
  intro p member
  simp only [builtinPlugins, List.mem_cons, List.not_mem_nil, or_false] at member
  rcases member with rfl | rfl | rfl
  · exact Behaviour.still_unfailing Splash.setUp
  · exact SystemMonitor.behaviour_unfailing
  · exact Behaviour.still_unfailing EndCard.setUp

end Builtin

namespace Script

theorem build_reaches (scene : Scene) (frames : List (Except Fault Bitmap × UInt16)) :
    scene.screen.Reaches (build scene frames).1.screen := by
  induction frames generalizing scene with
  | nil => exact .refl scene.screen
  | cons frame rest ih =>
    obtain ⟨picture, count⟩ := frame
    cases picture with
    | error fault => exact .refl scene.screen
    | ok picture =>
      rw [build]
      split
      · exact .refl scene.screen
      next screen added =>
        have framed := Screen.Reaches.addFrame scene.studio added
        exact framed.trans (ih ⟨screen, scene.studio⟩)

/-- A scripted plugin is orderly, whatever its script says. -/
theorem plugin_orderly (script : Script) (identity : Identity) (tempo : Tempo) :
    (script.plugin identity tempo).Orderly := by
  refine ⟨⟨identity, tempo, .refl _⟩, ?_, ?_⟩
  · intro setting scene
    change scene.screen.Reaches (script.setUp setting scene).1.screen
    rw [setUp]
    split
    · exact .refl scene.screen
    · exact build_reaches scene script.frames
  · intro k scene
    change scene.screen.Reaches (script.refresh k scene).scene.screen
    rw [refresh]
    split
    · exact .refl scene.screen
    · exact .refl scene.screen
    · exact .performAll scene _

/-- Cues without actions leave the scene as it is. -/
theorem refresh_idle {script : Script}
    (idle : ∀ actions, Cue.act actions ∈ script.cues → actions = []) (k : Nat) (scene : Scene) :
    (script.refresh k scene).scene = scene := by
  rw [refresh]
  split
  · rfl
  · rfl
  next actions found =>
    have none := idle actions (List.mem_of_getElem? found)
    subst none
    rfl

end Script

end LcdCompositor
