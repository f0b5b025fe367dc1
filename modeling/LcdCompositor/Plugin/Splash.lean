import LcdCompositor.Plugin

/-!
# The splash screen

The logo of the data directory, first alone and then with the product name and
the version. The version stands at the right end of the top row.
-/

namespace LcdCompositor.Splash

def identity : Identity := ⟨1, "Splash", "Logo and product name"⟩

/-- The row of the product name. -/
def productRow : Int := 38

/-- Ticks of the bare logo. -/
def logoTicks : UInt16 := 10

/-- Ticks of the logo with the texts. -/
def brandedTicks : UInt16 := 20

/-- Writes product name and version on the second frame. -/
def brand (productName : String) (scene : Scene) : Scene :=
  let scene := scene.write .last .mono5x8 productName (-1) productRow
  let (sheet, studio) := scene.studio.sheet .mono5x8
  let left :=
    match sheet with
    | .ok sheet => Panel.size.width.toNat - sheet.textWidth Panel.version
    | .error _ => 0
  { scene with studio }.write .last .mono5x8 Panel.version left 0

/-- Builds both frames from the bitmap of the logo. -/
def setUp (setting : Setting) (scene : Scene) : Scene × Option Fault :=
  match scene.addFile (FileTree.join setting.dataDirectory Panel.splashFile) logoTicks with
  | (scene, some fault) => (scene, some fault)
  | (scene, none) =>
    match scene.screen.picture .last with
    | .error fault => (scene, some fault)
    | .ok logo =>
      match scene.screen.addFrame logo brandedTicks with
      | .error fault => (scene, some fault)
      | .ok screen => (brand setting.productName { scene with screen }, none)

/-- The splash plugin. -/
def plugin {σ : Type} (memory : σ) : Plugin σ :=
  ⟨Screen.new identity Tempo.rapid, Behaviour.still setUp, memory⟩

end LcdCompositor.Splash
