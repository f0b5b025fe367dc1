import LcdCompositor.Report

/-!
# Screens

A screen has a list of frames, shows one of them at a time, and moves on when the
frame has been shown for its number of ticks. It also remembers whether it has
been locked since it was last rotated in.
-/

namespace LcdCompositor

/-- Who a screen is. The id has a single bit, so that masks can enable screens. -/
structure Identity where
  id : UInt64
  name : String
  description : String
deriving DecidableEq, Repr

/-- The time between ticks in milliseconds, and the number of ticks a screen stays
up before the next one takes over. -/
structure Tempo where
  interval : UInt16
  budget : UInt16
deriving DecidableEq, Repr

namespace Tempo

def normal : Tempo := ⟨1000, 20⟩

def rapid : Tempo := ⟨100, 30⟩

end Tempo

/-- One step of an animation. The frame stays for one tick more than its count. -/
structure Frame where
  picture : Bitmap
  count : UInt16
deriving DecidableEq

/-- The two frames that drawing can go to. -/
inductive Slot
  | current
  | last
deriving DecidableEq, Repr

/-- Frames, animation position and lock history of one screen. -/
structure Screen where
  identity : Identity
  tempo : Tempo
  frames : List Frame
  /-- The frame on show. -/
  index : Nat
  /-- Ticks for which it has been on show. -/
  ticks : Nat
  /-- Whether the screen has been locked since it was rotated in. -/
  everLocked : Bool
  /-- Whether the list of frames is complete. -/
  ready : Bool
deriving DecidableEq

namespace Screen

/-- A screen that has no frames yet. -/
def new (identity : Identity) (tempo : Tempo) : Screen :=
  ⟨identity, tempo, [], 0, 0, false, false⟩

def name (s : Screen) : String := s.identity.name

/-- Whether a mask enables the screen. -/
def enabledBy (s : Screen) (mask : UInt64) : Bool := s.identity.id &&& mask != 0

/-- Appends a frame, which has to be of the size of the panel. -/
def addFrame (s : Screen) (picture : Bitmap) (count : UInt16) : Except Fault Screen :=
  if picture.size ≠ Panel.size then .error (.format (.frameSize picture.size))
  else .ok { s with frames := s.frames ++ [⟨picture, count⟩] }

/-- Appends a dark frame. -/
def addBlank (s : Screen) (count : UInt16) : Except Fault Screen :=
  s.addFrame Bitmap.blankFrame count

/-- Back to the start of the first frame. -/
def resetAnimation (s : Screen) : Screen := { s with index := 0, ticks := 0 }

/-- Forgets that the screen has been locked. -/
def clearLockHistory (s : Screen) : Screen := { s with everLocked := false }

/-- Remembers that the screen has been locked. -/
def markLocked (s : Screen) : Screen := { s with everLocked := true }

/-- Ends the building of frames. Without any the screen cannot be used. -/
def finish (s : Screen) : Except Fault Screen :=
  if s.frames = [] then .error (.inconsistent (.builtNoFrames s.name))
  else .ok { s.resetAnimation with ready := true }

/-- One step of the animation: the next frame once the current one has been shown
for its count, the first one behind the last. -/
def advance (s : Screen) : Except Fault Screen :=
  match s.frames[s.index]? with
  | none => .error (.inconsistent (.frameIndex s.name s.index s.frames.length))
  | some frame =>
    if frame.count.toNat ≤ s.ticks then
      .ok { s with index := (s.index + 1) % s.frames.length, ticks := 0 }
    else .ok { s with ticks := s.ticks + 1 }

/-- The place of a slot in the list of frames. -/
def place (s : Screen) : Slot → Nat
  | .current => s.index
  | .last => s.frames.length - 1

/-- What is missing when a slot has no frame. -/
def vacancy (s : Screen) : Slot → Fault
  | .current => .inconsistent (.noCurrentFrame s.name)
  | .last => .inconsistent (.noFrames s.name)

/-- The picture in a slot. -/
def picture (s : Screen) (slot : Slot) : Except Fault Bitmap :=
  match s.frames[s.place slot]? with
  | some frame => .ok frame.picture
  | none => .error (s.vacancy slot)

/-- Puts a picture into a slot that has a frame; the frame keeps its count. -/
def setPicture (s : Screen) (slot : Slot) (picture : Bitmap) : Screen :=
  { s with frames := s.frames.modify (s.place slot) fun frame => { frame with picture } }

/-- Draws into a slot. On a fault nothing changes. -/
def draw (s : Screen) (slot : Slot) (f : Bitmap → Except Fault Bitmap) : Except Fault Screen := do
  let picture ← s.picture slot
  let drawn ← f picture
  pure (s.setPicture slot drawn)

/-- Darkens the frame on show, if there is one. -/
def clear (s : Screen) : Screen :=
  match s.picture .current with
  | .ok picture => s.setPicture .current picture.clear
  | .error _ => s

/-- The same byte all over the frame on show. -/
def fill (s : Screen) (byte : UInt8) : Except Fault Screen :=
  s.draw .current fun picture => .ok (picture.fill byte)

end Screen

end LcdCompositor
