import LcdCompositor.Bitmap

/-!
# Reports for the device

The device wants the image in bands of eight rows, one byte per column, bit `n`
being row `n` of the band. A report is a header, which is zero behind the report
id, and the image of one content frame. Neither the image nor a whole report is
written in part: on a fault the destination stays as it was.
-/

namespace LcdCompositor

namespace Bitmap

/-- The eight pixels of column `x` from row `8 * band` down, the topmost in the
least significant bit. -/
def columnByte (b : Bitmap) (band x : Nat) : UInt8 :=
  ((List.range 8).foldl (fun sum n =>
    sum + if b.getPixel x (8 * band + n) then Nat.pow 2 n else 0) 0).toUInt8

/-- All columns of all bands. -/
def columnBytes (b : Bitmap) : List UInt8 :=
  (List.range (b.height / 8)).flatMap fun band =>
    (List.range b.width).map fun x => b.columnByte band x

end Bitmap

namespace Report

/-- Replaces a destination by the image of a bitmap. The bitmap has to consist of
whole bands, and the destination has to have one byte for each of their columns. -/
def transcode (destination : List UInt8) (source : Bitmap) : Except Fault (List UInt8) :=
  if source.height % 8 ≠ 0 ∨ destination.length ≠ source.height / 8 * source.width then
    .error (.bounds (.imageLength source.size destination.length))
  else .ok source.columnBytes

/-- Sets the header: the report id, then zeros. A buffer that is shorter than a
header is header throughout. -/
def stampHeader (buffer : List UInt8) : List UInt8 :=
  match List.replicate (min Panel.headerLength buffer.length) (0 : UInt8) with
  | [] => []
  | _ :: zeros => Panel.reportId :: zeros ++ buffer.drop Panel.headerLength

/-- A whole report in place of an old one. -/
def encode (buffer : List UInt8) (frame : Bitmap) : Except Fault (List UInt8) :=
  if buffer.length ≠ Panel.reportLength then
    .error (.bounds (.reportLength buffer.length))
  else do
    let image ← transcode (buffer.drop Panel.headerLength) frame
    pure (stampHeader (buffer.take Panel.headerLength ++ image))

/-- The report of a dark panel. -/
def dark : List UInt8 := stampHeader (List.replicate Panel.reportLength 0)

end Report

end LcdCompositor
