import LcdCompositor.Proofs.Plugin.Orderly

/-!
# What touches the lock history

A screen remembers whether it has been locked. Of all operations only three change
that: forgetting, remembering, and drawing a closed padlock. Every other operation
keeps it, and so do the plugins that use no other: the built-in ones among them.
-/

namespace LcdCompositor

namespace Screen

variable {s t : Screen}

theorem everLocked_of_addFrame {picture : Bitmap} {count : UInt16}
    (h : s.addFrame picture count = .ok t) : t.everLocked = s.everLocked := by
  rw [addFrame] at h
  split at h <;> cases h
  rfl

theorem everLocked_of_finish (h : s.finish = .ok t) : t.everLocked = s.everLocked := by
  rw [finish] at h
  split at h <;> cases h
  rfl

theorem everLocked_of_advance (h : s.advance = .ok t) : t.everLocked = s.everLocked := by
  rw [advance_eq h]

theorem everLocked_of_draw {slot : Slot} {f : Bitmap → Except Fault Bitmap}
    (h : s.draw slot f = .ok t) : t.everLocked = s.everLocked := by
  obtain ⟨old, new, _, _, rfl⟩ := draw_eq_ok h
  rfl

@[simp] theorem everLocked_clear (s : Screen) : s.clear.everLocked = s.everLocked := by
  rw [clear]
  split <;> rfl

end Screen

namespace Scene

variable (scene : Scene)

theorem everLocked_settle {result : Except Fault Screen}
    (keeps : ∀ {t}, result = .ok t → t.everLocked = scene.screen.everLocked) :
    (scene.settle result).1.screen.everLocked = scene.screen.everLocked := by
  cases result with
  | ok t => exact keeps rfl
  | error fault => rfl

@[simp] theorem everLocked_drawOr (what : String) (f : Bitmap → Except Fault Bitmap) :
    (scene.drawOr what f).screen.everLocked = scene.screen.everLocked := by
  rw [drawOr]
  split
  · next drawn => exact Screen.everLocked_of_draw drawn
  · rfl

@[simp] theorem everLocked_bar (percent x y : Nat) :
    (scene.bar percent x y).screen.everLocked = scene.screen.everLocked :=
  scene.everLocked_drawOr ..

@[simp] theorem everLocked_line (x y size : Nat) :
    (scene.line x y size).screen.everLocked = scene.screen.everLocked :=
  scene.everLocked_drawOr ..

/-- The padlock is the one drawing that is remembered, and only a closed one. -/
@[simp] theorem everLocked_padlock (locked : Bool) (x y : Nat) :
    (scene.padlock locked x y).screen.everLocked = (locked || scene.screen.everLocked) := by
  rw [padlock, everLocked_drawOr]
  cases locked <;> rfl

@[simp] theorem everLocked_write (slot : Slot) (font : Font) (text : String) (x y : Int) :
    (scene.write slot font text x y).screen.everLocked = scene.screen.everLocked := by
  rw [write]
  split
  · rfl
  · dsimp only
    split
    · rfl
    · split <;> rfl

@[simp] theorem everLocked_addFile (path : String) (count : UInt16) :
    (scene.addFile path count).1.screen.everLocked = scene.screen.everLocked := by
  rw [addFile]
  split
  · exact scene.everLocked_settle Screen.everLocked_of_addFrame
  · rfl

end Scene

/-- An action that keeps the lock history. -/
def Action.Quiet : Action → Prop
  | .clearLockHistory => False
  | .markLocked => False
  | .padlock locked _ _ => locked = false
  | _ => True

theorem Scene.everLocked_perform (scene : Scene) {action : Action} (quiet : action.Quiet) :
    (scene.perform action).1.screen.everLocked = scene.screen.everLocked := by
  cases action with
  | addFrame picture count => exact scene.everLocked_settle Screen.everLocked_of_addFrame
  | addBlank count => exact scene.everLocked_settle Screen.everLocked_of_addFrame
  | addFile path count => exact scene.everLocked_addFile path count
  | finish => exact scene.everLocked_settle Screen.everLocked_of_finish
  | advance => exact scene.everLocked_settle Screen.everLocked_of_advance
  | resetAnimation => rfl
  | clearLockHistory => exact quiet.elim
  | markLocked => exact quiet.elim
  | clear => exact scene.screen.everLocked_clear
  | fill byte => exact scene.everLocked_settle Screen.everLocked_of_draw
  | setByte slot index byte => exact scene.everLocked_settle Screen.everLocked_of_draw
  | bar percent x y => exact scene.everLocked_bar percent x y
  | padlock locked x y =>
    obtain rfl : locked = false := quiet
    exact scene.everLocked_padlock false x y
  | line x y size => exact scene.everLocked_line x y size
  | write slot font text x y => exact scene.everLocked_write slot font text x y

variable {σ : Type}

/-- A behaviour that never touches the lock history. -/
structure Behaviour.Discreet (b : Behaviour σ) : Prop where
  setUp : ∀ setting (scene : Scene),
    (b.setUp setting scene).1.screen.everLocked = scene.screen.everLocked
  refresh : ∀ memory (scene : Scene),
    (b.refresh memory scene).scene.screen.everLocked = scene.screen.everLocked

namespace Plugin

/-- A plugin of discreet behaviour that has not been locked before it is loaded. -/
structure Discreet (p : Plugin σ) : Prop where
  fresh : p.screen.everLocked = false
  behaviour : p.behaviour.Discreet

/-- Setting up a discreet plugin leaves no lock history. -/
theorem everLocked_of_setUp {p q : Plugin σ} {setting : Setting} {studio after : Studio}
    (discreet : p.Discreet) (h : p.setUp setting studio = (q, after, none)) :
    q.screen.everLocked = false := by
  have built := discreet.behaviour.setUp setting ⟨p.screen, studio⟩
  rw [setUp] at h
  split at h
  · cases h
  next scene result =>
    rw [result] at built
    split at h
    · cases h
    next screen finished =>
      cases h
      exact (Screen.everLocked_of_finish finished).trans (built.trans discreet.fresh)

end Plugin

section Builtin

theorem Behaviour.still_discreet {setUp : Setting → Scene → Scene × Option Fault}
    (h : ∀ setting (scene : Scene),
      (setUp setting scene).1.screen.everLocked = scene.screen.everLocked) :
    (Behaviour.still (σ := σ) setUp).Discreet := ⟨h, fun _ _ => rfl⟩

theorem Splash.everLocked_setUp (setting : Setting) (scene : Scene) :
    (Splash.setUp setting scene).1.screen.everLocked = scene.screen.everLocked := by
  have loaded := scene.everLocked_addFile
    (FileTree.join setting.dataDirectory Panel.splashFile) logoTicks
  rw [Splash.setUp]
  split
  next added fault result => rwa [result] at loaded
  next added result =>
    rw [result] at loaded
    split
    · exact loaded
    · split
      · exact loaded
      next framed =>
        rw [← loaded, ← Screen.everLocked_of_addFrame framed]
        simp [Splash.brand]

theorem SystemMonitor.everLocked_drawLoads (scene : Scene) (reading : Snapshot) :
    (SystemMonitor.drawLoads scene reading).screen.everLocked = scene.screen.everLocked := by
  simp [SystemMonitor.drawLoads, SystemMonitor.load, Scene.clear]

theorem SystemMonitor.everLocked_drawRates (scene : Scene) (reading : Snapshot) :
    (SystemMonitor.drawRates scene reading).1.screen.everLocked = scene.screen.everLocked := by
  rw [SystemMonitor.drawRates]
  dsimp only
  split <;> simp [SystemMonitor.writeRates]

theorem SystemMonitor.everLocked_setUp (setting : Setting) (scene : Scene) :
    (SystemMonitor.setUp setting scene).1.screen.everLocked = scene.screen.everLocked := by
  rw [SystemMonitor.setUp]
  exact scene.everLocked_settle Screen.everLocked_of_addFrame

theorem SystemMonitor.everLocked_refresh (feed : SensorFeed) (scene : Scene) :
    (SystemMonitor.refresh feed scene).scene.screen.everLocked = scene.screen.everLocked := by
  rw [SystemMonitor.refresh, everLocked_drawRates, everLocked_drawLoads]

theorem SystemMonitor.behaviour_discreet :
    Behaviour.Discreet ⟨SystemMonitor.setUp, SystemMonitor.refresh⟩ where
  setUp := everLocked_setUp
  refresh feed scene := by
    dsimp only
    rw [everLocked_refresh]

theorem EndCard.everLocked_setUp (setting : Setting) (scene : Scene) :
    (EndCard.setUp setting scene).1.screen.everLocked = scene.screen.everLocked := by
  rw [EndCard.setUp]
  split
  · rfl
  next added =>
    have blank := Screen.everLocked_of_addFrame added
    split
    · exact blank
    next drawn =>
      rw [← blank, ← Screen.everLocked_of_draw drawn]
      simp

/-- The built-in plugins are discreet, over any feed. -/
theorem builtinPlugins_discreet (feed : SensorFeed) : ∀ p ∈ builtinPlugins feed, p.Discreet := by
  intro p member
  simp only [builtinPlugins, List.mem_cons, List.not_mem_nil, or_false] at member
  rcases member with rfl | rfl | rfl
  · exact ⟨rfl, Behaviour.still_discreet Splash.everLocked_setUp⟩
  · exact ⟨rfl, SystemMonitor.behaviour_discreet⟩
  · exact ⟨rfl, Behaviour.still_discreet EndCard.everLocked_setUp⟩

end Builtin

namespace Script

theorem everLocked_build (scene : Scene) (frames : List (Except Fault Bitmap × UInt16)) :
    (build scene frames).1.screen.everLocked = scene.screen.everLocked := by
  induction frames generalizing scene with
  | nil => rfl
  | cons frame rest ih =>
    obtain ⟨picture, count⟩ := frame
    cases picture with
    | error fault => rfl
    | ok picture =>
      rw [build]
      split
      · rfl
      next screen added =>
        exact (ih ⟨screen, scene.studio⟩).trans (Screen.everLocked_of_addFrame added)

theorem everLocked_performAll (scene : Scene) {actions : List Action}
    (quiet : ∀ action ∈ actions, action.Quiet) :
    (scene.performAll actions).screen.everLocked = scene.screen.everLocked := by
  rw [Scene.performAll]
  induction actions generalizing scene with
  | nil => rfl
  | cons action rest ih =>
    obtain ⟨first, others⟩ := List.forall_mem_cons.mp quiet
    exact (ih _ others).trans (scene.everLocked_perform first)

/-- A scripted plugin is discreet as far as its script is quiet. -/
theorem plugin_discreet {script : Script} (identity : Identity) (tempo : Tempo)
    (quiet : ∀ actions, Cue.act actions ∈ script.cues → ∀ action ∈ actions, action.Quiet) :
    (script.plugin identity tempo).Discreet := by
  refine ⟨rfl, ?_, ?_⟩
  · intro setting scene
    change (script.setUp setting scene).1.screen.everLocked = _
    rw [setUp]
    split
    · rfl
    · exact everLocked_build scene script.frames
  · intro k scene
    change (script.refresh k scene).scene.screen.everLocked = _
    rw [refresh]
    split
    · rfl
    · rfl
    next actions found =>
      exact everLocked_performAll scene (quiet actions (List.mem_of_getElem? found))

end Script

end LcdCompositor
