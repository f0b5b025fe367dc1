import LcdCompositor.Plugin

/-!
# Scripted plugins

A plugin whose frames and redraws are given as data. It serves wherever a screen
is wanted that does exactly what a list says: demonstrations, and trials of the
rotation.
-/

namespace LcdCompositor

/-- What one redraw does. -/
inductive Cue
  | fail (fault : Fault)
  | act (actions : List Action)

/-- Frames to start from and redraws to go through again and again. -/
structure Script where
  /-- Refuses to be set up, with this fault. -/
  refusal : Option Fault
  /-- Pictures with their counts; one that could not be made ends the building. -/
  frames : List (Except Fault Bitmap × UInt16)
  cues : List Cue

namespace Script

/-- Appends frames up to the first that cannot be used. -/
def build (scene : Scene) : List (Except Fault Bitmap × UInt16) → Scene × Option Fault
  | [] => (scene, none)
  | (.error fault, _) :: _ => (scene, some fault)
  | (.ok picture, count) :: rest =>
    match scene.screen.addFrame picture count with
    | .error fault => (scene, some fault)
    | .ok screen => build { scene with screen } rest

/-- Refuses, or builds the frames. -/
def setUp (script : Script) (_ : Setting) (scene : Scene) : Scene × Option Fault :=
  match script.refusal with
  | some fault => (scene, some fault)
  | none => build scene script.frames

/-- Redraw number `k` follows the cue at `k`, counted round the list. -/
def refresh (script : Script) (k : Nat) (scene : Scene) : Refreshed Nat :=
  match script.cues[k % script.cues.length]? with
  | none => ⟨k + 1, scene, none⟩
  | some (.fail fault) => ⟨k + 1, scene, some (.fault fault)⟩
  | some (.act actions) => ⟨k + 1, scene.performAll actions, none⟩

/-- The plugin of a script. Its memory counts the redraws. -/
def plugin (script : Script) (identity : Identity) (tempo : Tempo) : Plugin Nat :=
  ⟨Screen.new identity tempo, ⟨script.setUp, script.refresh⟩, 0⟩

end Script

end LcdCompositor
