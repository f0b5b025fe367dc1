import LcdCompositor.Panel
import LcdCompositor.Text.Quoted

/-!
# Faults

Everything that can go wrong while bitmaps are read, glyphs are drawn and plugins
take turns, as data: each constructor is one cause with what the message needs.
The wording is in `Fault.message` and nowhere else.
-/

namespace LcdCompositor

/-- One of the two sides of a picture or the two coordinates of a point. -/
inductive Axis
  | horizontal
  | vertical
deriving DecidableEq, Repr

namespace Axis

/-- The side of a picture along this axis. -/
def side : Axis → String
  | horizontal => "width"
  | vertical => "height"

/-- The coordinate along this axis. -/
def coordinate : Axis → String
  | horizontal => "x"
  | vertical => "y"

end Axis

/-- Failures of the file system and of streams. -/
inductive IoFault
  | notFound
  | notADirectory
  | isADirectory
  | notText
  | endsInHeader
  | other (text : String)
deriving DecidableEq, Repr

namespace IoFault

/-- The system's wording. -/
def message : IoFault → String
  | notFound => "No such file or directory (os error 2)"
  | notADirectory => "Not a directory (os error 20)"
  | isADirectory => "Is a directory (os error 21)"
  | notText => "stream did not contain valid UTF-8"
  | endsInHeader => "bitmap ends inside its header"
  | other text => text

end IoFault

/-- Data of the wrong shape. -/
inductive FormatFault
  | malformedToken
  | magic (token : String)
  | dimension (axis : Axis) (token : String)
  | unexpectedSize (found expected : Size)
  | unalignedWidth (width : Nat)
  | missingSeparator
  | cellWidth (width : Nat)
  | cellGeometry (width height leftShift extraShift : Nat)
  | sheetSize (found expected : Size)
  | cellOutsideSheet (column row : Nat) (c : Char) (sheet : Size)
  | frameSize (found : Size)
  | other (text : String)
deriving DecidableEq, Repr

namespace FormatFault

/-- The detail behind the heading of format faults. -/
def message : FormatFault → String
  | malformedToken => "malformed header token"
  | magic token =>
    let found := Text.quoted token
    s!"bad magic {found}, expected P4"
  | dimension axis token =>
    let found := Text.quoted token
    let side := axis.side
    s!"bad {side} token {found}"
  | unexpectedSize found expected =>
    let a := found.text
    let b := expected.text
    s!"dimensions {a} do not match expected {b}"
  | unalignedWidth width => s!"width {width} is not a multiple of 8"
  | missingSeparator => "missing separator after height"
  | cellWidth width => s!"unsupported cell width {width}"
  | cellGeometry width height leftShift extraShift =>
    s!"bad cell geometry {width}x{height} with shifts {leftShift}/{extraShift}"
  | sheetSize found expected =>
    let a := found.text
    let b := expected.text
    s!"sheet is {a}, font expects {b}"
  | cellOutsideSheet column row c sheet =>
    let shown := Text.quotedChar c
    let size := sheet.text
    s!"cell ({column}, {row}) for {shown} lies outside the {size} sheet"
  | frameSize found =>
    let a := found.text
    let b := Panel.size.text
    s!"frame is {a}, the LCD is {b}"
  | other text => text

end FormatFault

/-- Something that does not fit where it was to go. -/
inductive BoundsFault
  | byteCount (size : Size) (needed found : Nat)
  | glyph (axis : Axis) (position : Nat) (c : Char) (limit : Nat)
  | barTooWide (x : Nat)
  | barOutside (x y : Nat)
  | padlockOutside (x y : Nat)
  | lineOutside (x top bottom : Nat)
  | textStart (axis : Axis) (position : Int)
  | imageLength (size : Size) (length : Nat)
  | reportLength (length : Nat)
  | other (text : String)
deriving DecidableEq, Repr

namespace BoundsFault

/-- The detail behind the heading of bounds faults. -/
def message : BoundsFault → String
  | byteCount size needed found =>
    let a := size.text
    s!"{a} buffer needs {needed} bytes, got {found}"
  | glyph axis position c limit =>
    let name := axis.coordinate
    let shown := Text.quotedChar c
    s!"{name} {position} for {shown} exceeds {limit}"
  | barTooWide x => s!"progress bar at x {x} overflows the frame"
  | barOutside x y => s!"progress bar at ({x}, {y}) outside the frame"
  | padlockOutside x y => s!"padlock at ({x}, {y}) outside the frame"
  | lineOutside x top bottom => s!"line at x {x} rows {top}..={bottom} outside the frame"
  | textStart axis position =>
    let name := axis.coordinate
    s!"{name} {position} out of range"
  | imageLength size length =>
    let a := size.text
    s!"cannot transcode {a} into {length} bytes"
  | reportLength length =>
    let expected := Panel.reportLength
    s!"device buffer is {length} bytes, expected {expected}"
  | other text => text

end BoundsFault

/-- State that cannot be drawn from, such as a screen without frames. -/
inductive StateFault
  | builtNoFrames (screen : String)
  | frameIndex (screen : String) (index count : Nat)
  | noCurrentFrame (screen : String)
  | noFrames (screen : String)
  | noPlugin (index : Nat)
  | other (text : String)
deriving DecidableEq, Repr

namespace StateFault

/-- The detail behind the heading of state faults. -/
def message : StateFault → String
  | builtNoFrames screen => s!"{screen} built no frames"
  | frameIndex screen index count => s!"{screen} has frame index {index} of {count}"
  | noCurrentFrame screen => s!"{screen} has no current frame"
  | noFrames screen => s!"{screen} has no frames"
  | noPlugin index => s!"no plugin at {index}"
  | other text => text

end StateFault

/-- What can go wrong with bitmaps, fonts, frames and rotation. -/
inductive Fault
  | format (cause : FormatFault)
  | io (cause : IoFault)
  | shortRead (expected actual : Nat)
  | trailingData
  | bounds (cause : BoundsFault)
  | unknownCharacter (c : Char)
  | allocation (text : String)
  | allDisabled (mask : UInt64)
  | inconsistent (cause : StateFault)
deriving DecidableEq, Repr

namespace Fault

/-- The whole message, heading included. -/
def message : Fault → String
  | format cause => "Bitmap format error: " ++ cause.message
  | io cause => "I/O error: " ++ cause.message
  | shortRead expected actual => s!"Short read: expected {expected} bytes, got {actual}"
  | trailingData => "Unexpected trailing data after bitmap payload"
  | bounds cause => "Out of bounds: " ++ cause.message
  | unknownCharacter c => "Unknown character " ++ Text.quotedChar c
  | allocation text => "Allocation failed: " ++ text
  | allDisabled mask => "No loaded plugin enabled by mask " ++ Text.hexMask mask
  | inconsistent cause => "Inconsistent state: " ++ cause.message

/-- Failures of reading: the file could not be opened or read, or it holds fewer
or more bytes than its header announces. -/
def isIo : Fault → Bool
  | io _ => true
  | shortRead _ _ => true
  | trailingData => true
  | _ => false

/-- The fault for storage whose size cannot be represented. -/
def capacityOverflow : Fault :=
  .allocation ("memory allocation failed because the computed capacity " ++
    "exceeded the collection's maximum")

end Fault

end LcdCompositor
