import LcdCompositor.Report

/-!
# The layout of a report

Every report that is handed out is the same header in front of an image. Stamping
overwrites whatever stood in the place of the header, and a frame of the size of the
panel always fills the image exactly.
-/

namespace LcdCompositor

/-- Blocks of one length are together as long as one of them times their number. -/
theorem length_flatMap_range {α : Type} {f : Nat → List α} {width : Nat}
    (block : ∀ i, (f i).length = width) (count : Nat) :
    ((List.range count).flatMap f).length = count * width := by
  rw [List.length_flatMap]
  simp only [block, List.map_const', List.length_range, List.sum_replicate_nat]

namespace Bitmap

theorem length_band (b : Bitmap) (band : Nat) :
    ((List.range b.width).map (b.columnByte band)).length = b.width := by
  rw [List.length_map, List.length_range]

@[simp] theorem length_columnBytes (b : Bitmap) :
    b.columnBytes.length = b.height / 8 * b.width :=
  length_flatMap_range b.length_band _

theorem length_columnBytes_of_size {b : Bitmap} (size : b.size = Panel.size) :
    b.columnBytes.length = Panel.frameLength := by
  rw [length_columnBytes, height, width, size]
  decide

end Bitmap

namespace Report

/-- What stands in front of every image: the report id, and zeros. -/
def header : List UInt8 := Panel.reportId :: List.replicate (Panel.headerLength - 1) 0

/-- The image of a dark panel. -/
def darkImage : List UInt8 := List.replicate Panel.frameLength 0

theorem length_header : header.length = Panel.headerLength := rfl

theorem length_append_header {image : List UInt8} (h : image.length = Panel.frameLength) :
    (header ++ image).length = Panel.reportLength := by
  rw [List.length_append, length_header, h, Panel.reportLength]

theorem stampHeader_append {front image : List UInt8} (h : front.length = Panel.headerLength) :
    stampHeader (front ++ image) = header ++ image := by
  have room : min Panel.headerLength (front ++ image).length = Panel.headerLength := by
    rw [List.length_append]
    omega
  rw [stampHeader, room, ← h, List.drop_left, h]
  rfl

/-- A stamped buffer keeps its image. -/
theorem stampHeader_eq {buffer : List UInt8} (h : buffer.length = Panel.reportLength) :
    stampHeader buffer = header ++ buffer.drop Panel.headerLength := by
  have front : (buffer.take Panel.headerLength).length = Panel.headerLength := by
    rw [List.length_take, h, Panel.reportLength]
    omega
  have stamped : stampHeader (buffer.take Panel.headerLength ++ buffer.drop Panel.headerLength) =
      header ++ buffer.drop Panel.headerLength := stampHeader_append front
  rwa [List.take_append_drop] at stamped

theorem length_stampHeader {buffer : List UInt8} (h : buffer.length = Panel.reportLength) :
    (stampHeader buffer).length = Panel.reportLength := by
  rw [stampHeader_eq h, length_append_header]
  rw [List.length_drop, h, Panel.reportLength]
  omega

/-- A report that goes wrong is blanked as a whole, and comes out dark. -/
theorem stampHeader_blank : stampHeader (List.replicate Panel.reportLength 0) =
    header ++ darkImage := by
  have parts : List.replicate Panel.reportLength (0 : UInt8) =
      List.replicate Panel.headerLength 0 ++ darkImage :=
    (List.replicate_append_replicate ..).symm
  rw [parts, stampHeader_append List.length_replicate]

theorem length_dark : dark.length = Panel.reportLength := by
  rw [dark, length_stampHeader List.length_replicate]

/-- The image of a frame of the panel's size fills any destination of the right length. -/
theorem transcode_eq {destination : List UInt8} {frame : Bitmap}
    (length : destination.length = Panel.frameLength) (size : frame.size = Panel.size) :
    transcode destination frame = .ok frame.columnBytes := by
  have bands : frame.height % 8 = 0 := by
    rw [Bitmap.height, size]
    decide
  have room : destination.length = frame.height / 8 * frame.width :=
    length.trans ((Bitmap.length_columnBytes_of_size size).symm.trans (by simp))
  rw [transcode, if_neg (by simp [bands, room])]

/-- A report can always be made of a frame of the panel's size. -/
theorem encode_eq {buffer : List UInt8} {frame : Bitmap}
    (length : buffer.length = Panel.reportLength) (size : frame.size = Panel.size) :
    encode buffer frame = .ok (header ++ frame.columnBytes) := by
  have image : (buffer.drop Panel.headerLength).length = Panel.frameLength := by
    rw [List.length_drop, length, Panel.reportLength]
    omega
  have front : (buffer.take Panel.headerLength).length = Panel.headerLength := by
    rw [List.length_take, length, Panel.reportLength]
    omega
  rw [encode, if_neg (not_not_intro length), transcode_eq image size]
  exact congrArg Except.ok (stampHeader_append front)

end Report

end LcdCompositor
