/-!
# The panel

Constants of the keyboard panel: the size of a content frame, the layout of the
report the device takes, the key that locks a plugin, and the padlock shown in
the bottom right corner.
-/

namespace LcdCompositor

/-- The size of a bitmap in pixels. Both sides fit in sixteen bits. -/
structure Size where
  width : UInt16
  height : UInt16
deriving DecidableEq, Repr, Inhabited

namespace Size

/-- Bytes in one row when eight pixels share a byte. -/
def stride (s : Size) : Nat := s.width.toNat / 8

/-- Bytes in all rows. -/
def packedLength (s : Size) : Nat := s.stride * s.height.toNat

/-- The size as it stands in messages, such as 160x48. -/
def text (s : Size) : String := s!"{s.width}x{s.height}"

end Size

namespace Panel

/-- A content frame. The glass shows fewer rows than the report carries. -/
def size : Size := ⟨160, 48⟩

/-- Bytes in one packed content frame. -/
def frameLength : Nat := size.packedLength

/-- Bytes in front of the image in a report. -/
def headerLength : Nat := 32

/-- Bytes in a whole report. -/
def reportLength : Nat := headerLength + frameLength

/-- The first byte of every report. -/
def reportId : UInt8 := 3

/-- The key that locks and unlocks the plugin on display. -/
def lockKey : String := "L2"

/-- The interval between ticks, in milliseconds, while no plugin is loaded. -/
def idleInterval : UInt16 := 1000

/-- The file with the splash bitmap, inside the data directory. -/
def splashFile : String := "splash.pbm"

/-- The product version printed on the splash screen. -/
def version : String := "v0.3.0"

end Panel

namespace Padlock

/-- The left edge of the padlock on a frame. -/
def column : Nat := 152

/-- The top edge of the padlock on a frame. -/
def row : Nat := 42

/-- The columns a padlock covers, as the leading bits of a byte. -/
def mask : UInt8 := 0xf8

/-- One byte per row; the most significant bit is the leftmost pixel. -/
def closed : List UInt8 := [0x70, 0x88, 0x88, 0xf8, 0xd8, 0xf8]

/-- The padlock with its shackle open. -/
def opened : List UInt8 := [0x70, 0x88, 0x80, 0xf8, 0xd8, 0xf8]

/-- No padlock: the cells it would cover are dark. -/
def absent : List UInt8 := [0, 0, 0, 0, 0, 0]

/-- The rows to show: closed while locked, open once a lock has been released,
and nothing for a screen that has never been locked. -/
def rows (locked everLocked : Bool) : List UInt8 :=
  if locked then closed else if everLocked then opened else absent

end Padlock

end LcdCompositor
