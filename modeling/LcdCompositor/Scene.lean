import LcdCompositor.Drawing
import LcdCompositor.Font
import LcdCompositor.Screen

/-!
# Scenes

A scene is a screen in the studio where it is drawn. The drawing operations here
never fail: what cannot be drawn is reported in the log and skipped, and whatever
was drawn before stays. `Action` lists everything that can be done to a screen,
and `Scene.perform` does it.
-/

namespace LcdCompositor

/-- A screen together with what it is drawn with. -/
structure Scene where
  screen : Screen
  studio : Studio

namespace Scene

/-- Reports that something about the screen went wrong. -/
def warn (scene : Scene) (what : String) (fault : Fault) : Scene :=
  { scene with studio :=
      scene.studio.report .warn (scene.screen.name ++ ": " ++ what ++ ": " ++ fault.message) }

/-- Draws on the frame on show or reports what was skipped. -/
def drawOr (scene : Scene) (what : String) (f : Bitmap → Except Fault Bitmap) : Scene :=
  match scene.screen.draw .current f with
  | .ok screen => { scene with screen }
  | .error fault => scene.warn (what ++ " skipped") fault

/-- A progress bar on the frame on show. -/
def bar (scene : Scene) (percent x y : Nat) : Scene :=
  scene.drawOr "progress bar" fun b => Drawing.progressBar b percent x y

/-- The padlock on the frame on show. A closed one is remembered even if it cannot
be drawn. -/
def padlock (scene : Scene) (locked : Bool) (x y : Nat) : Scene :=
  let screen := if locked then scene.screen.markLocked else scene.screen
  { scene with screen }.drawOr "padlock" fun b =>
    Drawing.padlock b (Padlock.rows locked screen.everLocked) x y

/-- A vertical line on the frame on show. -/
def line (scene : Scene) (x y size : Nat) : Scene :=
  scene.drawOr "vertical line" fun b => Drawing.verticalLine b x y size

/-- Reports that a text was cut short. -/
def warnText (scene : Scene) (text : String) (fault : Fault) : Scene :=
  scene.warn ("text " ++ Text.quoted text ++ " cut short") fault

/-- Writes a line of text into a slot. A negative coordinate centers it. -/
def write (scene : Scene) (slot : Slot) (font : Font) (text : String) (x y : Int) : Scene :=
  match scene.studio.sheet font with
  | (.error fault, studio) => { scene with studio }.warnText text fault
  | (.ok sheet, studio) =>
    let scene := { scene with studio }
    match scene.screen.picture slot with
    | .error fault => scene.warnText text fault
    | .ok picture =>
      match Drawing.text sheet picture text x y with
      | (drawn, none) => { scene with screen := scene.screen.setPicture slot drawn }
      | (drawn, some fault) =>
        { scene with screen := scene.screen.setPicture slot drawn }.warnText text fault

/-- Darkens the frame on show. -/
def clear (scene : Scene) : Scene := { scene with screen := scene.screen.clear }

/-- The outcome of an operation on the screen alone. -/
def settle (scene : Scene) : Except Fault Screen → Scene × Option Fault
  | .ok screen => ({ scene with screen }, none)
  | .error fault => (scene, some fault)

/-- Appends a frame with the picture of a file. -/
def addFile (scene : Scene) (path : String) (count : UInt16) : Scene × Option Fault :=
  match loadBitmap scene.studio.files path Panel.size with
  | .ok picture => scene.settle (scene.screen.addFrame picture count)
  | .error fault => (scene, some fault)

end Scene

/-- What can be done to a screen. -/
inductive Action
  | addFrame (picture : Bitmap) (count : UInt16)
  | addBlank (count : UInt16)
  | addFile (path : String) (count : UInt16)
  | finish
  | advance
  | resetAnimation
  | clearLockHistory
  | markLocked
  | clear
  | fill (byte : UInt8)
  | setByte (slot : Slot) (index : Nat) (byte : UInt8)
  | bar (percent x y : Nat)
  | padlock (locked : Bool) (x y : Nat)
  | line (x y size : Nat)
  | write (slot : Slot) (font : Font) (text : String) (x y : Int)

/-- Does one thing to the screen of a scene. -/
def Scene.perform (scene : Scene) : Action → Scene × Option Fault
  | .addFrame picture count => scene.settle (scene.screen.addFrame picture count)
  | .addBlank count => scene.settle (scene.screen.addBlank count)
  | .addFile path count => scene.addFile path count
  | .finish => scene.settle scene.screen.finish
  | .advance => scene.settle scene.screen.advance
  | .resetAnimation => scene.settle (.ok scene.screen.resetAnimation)
  | .clearLockHistory => scene.settle (.ok scene.screen.clearLockHistory)
  | .markLocked => scene.settle (.ok scene.screen.markLocked)
  | .clear => (scene.clear, none)
  | .fill byte => scene.settle (scene.screen.fill byte)
  | .setByte slot index byte =>
    scene.settle (scene.screen.draw slot fun b => .ok (b.modifyByte index fun _ => byte))
  | .bar percent x y => (scene.bar percent x y, none)
  | .padlock locked x y => (scene.padlock locked x y, none)
  | .line x y size => (scene.line x y size, none)
  | .write slot font text x y => (scene.write slot font text x y, none)

/-- Does several things in order. Faults do not stop the rest. -/
def Scene.performAll (scene : Scene) (actions : List Action) : Scene :=
  actions.foldl (fun scene action => (scene.perform action).1) scene

end LcdCompositor
