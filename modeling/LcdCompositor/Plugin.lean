import LcdCompositor.Machine.Word
import LcdCompositor.Scene

/-!
# Plugins

A plugin is a screen that knows how to build its frames and how to redraw them.
It may keep a memory of its own between redraws, whose type is a parameter.
-/

namespace LcdCompositor

/-- What plugins learn about their surroundings when they are set up. -/
structure Setting where
  dataDirectory : String
  productName : String
deriving DecidableEq, Repr

/-- Why a redraw ends before it is done. -/
inductive Interruption
  /-- It reports a fault. -/
  | fault (cause : Fault)
  /-- The machine stops in the middle of it. -/
  | stop (cause : Stop)
deriving DecidableEq, Repr

/-- What a redraw leaves behind. One that is interrupted leaves what it has come to until then. -/
structure Refreshed (σ : Type) where
  memory : σ
  scene : Scene
  interruption : Option Interruption

/-- How a plugin builds and redraws its screen. -/
structure Behaviour (σ : Type) where
  /-- Builds the frames. A plugin that reports a fault is discarded. -/
  setUp : Setting → Scene → Scene × Option Fault
  /-- Redraws the frame on show, once per tick. -/
  refresh : σ → Scene → Refreshed σ

/-- A screen with its behaviour and its memory. -/
structure Plugin (σ : Type) where
  screen : Screen
  behaviour : Behaviour σ
  memory : σ

namespace Plugin

variable {σ : Type}

def id (p : Plugin σ) : UInt64 := p.screen.identity.id

def name (p : Plugin σ) : String := p.screen.name

/-- Whether a mask enables the plugin. -/
def enabledBy (p : Plugin σ) (mask : UInt64) : Bool := p.screen.enabledBy mask

/-- Changes the screen and nothing else. -/
def onScreen (p : Plugin σ) (f : Screen → Screen) : Plugin σ := { p with screen := f p.screen }

/-- Builds the frames and closes their list. -/
def setUp (p : Plugin σ) (setting : Setting) (studio : Studio) :
    Plugin σ × Studio × Option Fault :=
  match p.behaviour.setUp setting ⟨p.screen, studio⟩ with
  | (scene, some fault) => ({ p with screen := scene.screen }, scene.studio, some fault)
  | (scene, none) =>
    match scene.screen.finish with
    | .error fault => ({ p with screen := scene.screen }, scene.studio, some fault)
    | .ok screen => ({ p with screen }, scene.studio, none)

/-- Redraws the frame on show. -/
def refresh (p : Plugin σ) (studio : Studio) : Plugin σ × Studio × Option Interruption :=
  let after := p.behaviour.refresh p.memory ⟨p.screen, studio⟩
  ({ p with screen := after.scene.screen, memory := after.memory }, after.scene.studio,
    after.interruption)

end Plugin

/-- A behaviour that leaves its frames as they were built. -/
def Behaviour.still {σ : Type} (setUp : Setting → Scene → Scene × Option Fault) : Behaviour σ :=
  ⟨setUp, fun memory scene => ⟨memory, scene, none⟩⟩

end LcdCompositor
