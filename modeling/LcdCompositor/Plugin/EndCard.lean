import LcdCompositor.Plugin
import LcdCompositor.Bitmap.Shape

/-!
# The end screen

A goodbye card: a border along the edge of the panel, the product name, and a
farewell in large letters. It never changes once it has been built.
-/

namespace LcdCompositor.EndCard

def identity : Identity := ⟨4, "End Screen", "Shown when the session ends"⟩

/-- The row of the product name. -/
def productRow : Int := 10

/-- The row of the farewell. -/
def farewellRow : Int := 22

/-- The farewell itself. -/
def farewell : String := "BYE"

/-- Draws the border along the edge of a frame. -/
def border (picture : Bitmap) : Bitmap :=
  picture.outlineRectangle (Rectangle.ofSize picture.size) true

/-- Builds the card. -/
def setUp (setting : Setting) (scene : Scene) : Scene × Option Fault :=
  match scene.screen.addBlank 0 with
  | .error fault => (scene, some fault)
  | .ok screen =>
    match screen.draw .last fun picture => .ok (border picture) with
    | .error fault => ({ scene with screen }, some fault)
    | .ok screen =>
      let scene := { scene with screen }
      let scene := scene.write .last .mono6x8 setting.productName (-1) productRow
      (scene.write .last .bold16x16 farewell (-1) farewellRow, none)

/-- The end plugin. -/
def plugin {σ : Type} (memory : σ) : Plugin σ :=
  ⟨Screen.new identity Tempo.normal, Behaviour.still setUp, memory⟩

end LcdCompositor.EndCard
