import LcdCompositor.Report

/-!
# Writing a report in place

The image and the report as they are written into memory that holds something else: byte by
byte, band by band, each byte gathered from eight rows of the frame. What is handed back is
the memory as it then stands, also when there is a fault.
-/

namespace LcdCompositor

/-- Eight pixels of a column, gathered from the bytes of the eight rows of a band. The
column is given by its byte in a row and its bit in that byte, counted from the least
significant one. The topmost pixel becomes the least significant bit. -/
def Bitmap.gather (source : Bitmap) (band column bit : Nat) : UInt8 :=
  (List.range 8).foldl (fun sum n =>
    let byte := source.bytes.getD ((band * 8 + n) * source.stride + column) 0
    sum ||| ((byte >>> bit.toUInt8) &&& 1) <<< n.toUInt8) 0

namespace Report

/-- Writes the eight columns that share a byte in a row, from the left. -/
def writeColumns (source : Bitmap) (band column : Nat) (destination : List UInt8) :
    List UInt8 :=
  (List.range 8).foldl (fun written place =>
    written.set (band * source.width + column * 8 + place)
      (source.gather band column (7 - place))) destination

/-- Writes all columns of one band. -/
def writeBand (source : Bitmap) (band : Nat) (destination : List UInt8) : List UInt8 :=
  (List.range source.stride).foldl (fun written column =>
    writeColumns source band column written) destination

/-- Writes the image of a bitmap over a destination. Nothing is written before the sizes
have been compared. -/
def writeImage (destination : List UInt8) (source : Bitmap) : List UInt8 × Option Fault :=
  if source.height % 8 ≠ 0 ∨ destination.length ≠ source.height / 8 * source.width then
    (destination, some (.bounds (.imageLength source.size destination.length)))
  else
    ((List.range (source.height / 8)).foldl (fun written band =>
      writeBand source band written) destination, none)

/-- Writes a whole report over a buffer, the image first. The header is left alone unless
there is an image behind it. -/
def write (buffer : List UInt8) (frame : Bitmap) : List UInt8 × Option Fault :=
  if buffer.length ≠ Panel.reportLength then
    (buffer, some (.bounds (.reportLength buffer.length)))
  else
    match writeImage (buffer.drop Panel.headerLength) frame with
    | (image, some fault) => (buffer.take Panel.headerLength ++ image, some fault)
    | (image, none) => (stampHeader (buffer.take Panel.headerLength ++ image), none)

end Report

end LcdCompositor
