import LcdCompositor.Report.InPlace
import LcdCompositor.Proofs.Report.Image

/-!
# A report in place is written whole or not at all

The loops write every byte of the image once, in order, each next to the one before. So a
loop whose steps write neighbouring pieces writes the pieces joined, and what stood there
does not matter; three loops inside each other write the image of the bitmap. The sizes are
compared before any of this starts and the header comes last, so a fault leaves the memory
as it was.
-/

namespace LcdCompositor

/-- The step replaces the bytes from a place on by the block, and nothing else. -/
def Writes (step : List UInt8 → List UInt8) (start : Nat) (block : List UInt8) : Prop :=
  ∀ front middle back : List UInt8, front.length = start → middle.length = block.length →
    step (front ++ middle ++ back) = front ++ block ++ back

theorem writes_set (start : Nat) (byte : UInt8) : Writes (·.set start byte) start [byte] := by
  rintro front middle back rfl length
  obtain ⟨old, rfl⟩ := List.length_eq_one_iff.mp length
  simp

/-- One step after the other writes both blocks, if the second starts behind the first. -/
theorem Writes.append {first second : List UInt8 → List UInt8} {start : Nat}
    {block next : List UInt8} (h : Writes first start block)
    (h' : Writes second (start + block.length) next) :
    Writes (fun memory => second (first memory)) start (block ++ next) := by
  rintro front middle back rfl size
  obtain ⟨left, right, rfl, before, behind⟩ : ∃ left right, middle = left ++ right ∧
      left.length = block.length ∧ right.length = next.length := by
    rw [List.length_append] at size
    refine ⟨middle.take block.length, middle.drop block.length,
      (List.take_append_drop ..).symm, ?_, ?_⟩
    · rw [List.length_take]
      omega
    · rw [List.length_drop]
      omega
  calc second (first (front ++ (left ++ right) ++ back))
      = second (first (front ++ left ++ (right ++ back))) := by simp only [List.append_assoc]
    _ = second (front ++ block ++ (right ++ back)) := by rw [h front left _ rfl before]
    _ = second ((front ++ block) ++ right ++ back) := by simp only [List.append_assoc]
    _ = (front ++ block) ++ next ++ back := h' _ right back List.length_append behind
    _ = front ++ (block ++ next) ++ back := by rw [List.append_assoc front]

/-- Steps that write neighbouring blocks of one length write the blocks joined. What the first
of them have written is in front of the memory that the next one writes over. -/
theorem writes_foldl {step : Nat → List UInt8 → List UInt8} {block : Nat → List UInt8}
    {start width : Nat} (length : ∀ i, (block i).length = width) {count : Nat}
    (writes : ∀ i < count, Writes (step i) (start + i * width) (block i)) :
    Writes (fun memory => (List.range count).foldl (fun written i => step i written) memory)
      start ((List.range count).flatMap block) := by
  induction count with
  | zero =>
    rintro front middle back - empty
    rw [List.length_eq_zero_iff.mp empty]
    rfl
  | succ count ih =>
    have joined : ((List.range count).flatMap block).length = count * width :=
      length_flatMap_range length count
    simp only [List.range_succ, List.foldl_append, List.foldl_cons, List.foldl_nil,
      List.flatMap_append, List.flatMap_singleton]
    refine (ih fun i before => writes i (by omega)).append ?_
    rw [joined]
    exact writes count (Nat.lt_succ_self count)

/-- A run of columns is made of the runs under the bytes of a row. -/
theorem map_range_mul {α : Type} (f : Nat → α) (count width : Nat) :
    (List.range (count * width)).map f =
      (List.range count).flatMap fun i => (List.range width).map fun k => f (i * width + k) := by
  induction count with
  | zero => rw [Nat.zero_mul]; rfl
  | succ count ih =>
    rw [Nat.succ_mul, List.range_add, List.map_append, ih, List.range_succ, List.flatMap_append,
      List.flatMap_singleton, List.map_map]
    rfl

namespace Bitmap

variable (b : Bitmap)

/-- One bit of a byte, moved to another place. -/
theorem testBit_moved (byte : UInt8) {bit n m : Nat} (hb : bit < 8) (hn : n < 8) (hm : m < 8) :
    (((byte >>> bit.toUInt8) &&& 1) <<< n.toUInt8).toNat.testBit m =
      (decide (m = n) && byte.toNat.testBit bit) := by
  have small : bit % 2 ^ 8 % 8 = bit ∧ n % 2 ^ 8 % 8 = n := by omega
  rw [UInt8.toNat_shiftLeft, UInt8.toNat_and, UInt8.toNat_shiftRight]
  change (((byte.toNat >>> (bit % 2 ^ 8 % 8)) &&& 1) <<< (n % 2 ^ 8 % 8) % 2 ^ 8).testBit m = _
  rw [small.1, small.2, Nat.testBit_mod_two_pow, decide_eq_true hm, Bool.true_and,
    Nat.testBit_shiftLeft, Nat.testBit_and, Nat.testBit_shiftRight]
  by_cases place : m = n
  · subst place
    simp
  · by_cases behind : n ≤ m
    · have other : Nat.testBit 1 (m - n) = false :=
        Nat.testBit_lt_two_pow (Nat.one_lt_two_pow (by omega))
      simp [other, place]
    · simp [behind, place]

/-- Gathering collects the same bit of as many bytes as it has come to. -/
theorem testBit_gathered (byte : Nat → UInt8) {bit count m : Nat} (hb : bit < 8)
    (hc : count ≤ 8) (hm : m < 8) :
    ((List.range count).foldl (fun sum n =>
        sum ||| ((byte n >>> bit.toUInt8) &&& 1) <<< n.toUInt8) 0).toNat.testBit m =
      (decide (m < count) && (byte m).toNat.testBit bit) := by
  induction count with
  | zero => simp
  | succ count ih =>
    rw [List.range_succ, List.foldl_append, List.foldl_cons, List.foldl_nil, UInt8.toNat_or,
      Nat.testBit_or, ih (by omega), testBit_moved _ hb (by omega) hm]
    by_cases last : m = count
    · subst last
      simp
    · have before : m < count ↔ m < count + 1 := by omega
      rw [decide_eq_false last, Bool.false_and, Bool.or_false, decide_eq_decide.mpr before]

/-- A gathered byte is a column of its band. -/
theorem gather_eq {band column place : Nat} (hb : band < b.height / 8) (hc : column < b.stride)
    (hp : place < 8) :
    b.gather band column (7 - place) = b.columnByte band (column * 8 + place) := by
  have inside : column * 8 + place < b.width := by
    rw [width_eq]
    omega
  apply eq_of_testBit
  intro n hn
  have row : 8 * band + n < b.height := by omega
  rw [b.testBit_columnByte band _ hn, getPixel_of_inside inside row, gather,
    testBit_gathered _ (by omega) (Nat.le_refl 8) hn, decide_eq_true hn, Bool.true_and,
    bitFromLeft, Nat.mul_comm band]
  have byte : (column * 8 + place) / 8 = column := by omega
  have bit : (column * 8 + place) % 8 = place := by omega
  rw [byte, bit]

end Bitmap

namespace Report

variable {source : Bitmap} {band column : Nat}

theorem writes_columns (hb : band < source.height / 8) (hc : column < source.stride) :
    Writes (writeColumns source band column) (band * source.width + column * 8)
      ((List.range 8).map fun place => source.columnByte band (column * 8 + place)) := by
  have single (place : Nat) : [source.columnByte band (column * 8 + place)].length = 1 := rfl
  rw [List.map_eq_flatMap]
  refine writes_foldl single fun place hp => ?_
  rw [Nat.mul_one, source.gather_eq hb hc hp]
  exact writes_set _ _

theorem writes_band (hb : band < source.height / 8) :
    Writes (writeBand source band) (band * source.width)
      ((List.range source.width).map (source.columnByte band)) := by
  rw [Bitmap.width_eq, Nat.mul_comm 8, map_range_mul, ← Nat.mul_comm 8, ← Bitmap.width_eq]
  have eight (column : Nat) : ((List.range 8).map fun place =>
      source.columnByte band (column * 8 + place)).length = 8 := rfl
  exact writes_foldl eight fun column hc => writes_columns hb hc

/-- What is written over a destination of the right length is the image. -/
theorem writes_image (source : Bitmap) :
    Writes (fun destination => (List.range (source.height / 8)).foldl
      (fun written band => writeBand source band written) destination) 0 source.columnBytes := by
  refine writes_foldl source.length_band fun band hb => ?_
  rw [Nat.zero_add]
  exact writes_band hb

/-- The image in place is the image made on the side, and on a fault there is none. -/
theorem writeImage_eq (destination : List UInt8) (source : Bitmap) :
    writeImage destination source =
      match transcode destination source with
      | .ok image => (image, none)
      | .error fault => (destination, some fault) := by
  rw [writeImage, transcode]
  split
  next => rfl
  next fits =>
    have length : destination.length = source.columnBytes.length := by
      rw [Bitmap.length_columnBytes]
      omega
    have written := writes_image source [] destination [] rfl length
    rw [List.nil_append, List.append_nil, List.nil_append, List.append_nil] at written
    exact congrArg (·, none) written

/-- The same for a whole report. -/
theorem write_eq (buffer : List UInt8) (frame : Bitmap) :
    write buffer frame =
      match encode buffer frame with
      | .ok report => (report, none)
      | .error fault => (buffer, some fault) := by
  rw [write, encode]
  split
  next => rfl
  next =>
    rw [writeImage_eq]
    cases transcode (buffer.drop Panel.headerLength) frame with
    | ok image => rfl
    | error fault => simp

theorem writeImage_eq_ok_iff {destination after : List UInt8} {source : Bitmap} :
    writeImage destination source = (after, none) ↔
      (source.height % 8 = 0 ∧ destination.length = source.height / 8 * source.width) ∧
        after = source.columnBytes := by
  rw [← transcode_eq_ok_iff, writeImage_eq]
  cases transcode destination source <;> simp

/-- The loops write an image over a destination if and only if the bitmap consists of whole bands
and the destination has a byte for each of their columns. It is the image that is made on the
side, the one image of that length that shows the bitmap pixel by pixel; what stood in the
destination does not matter, and no other bitmap of the same size has this image. -/
theorem transcode_pixels (source : Bitmap) (destination : List UInt8) :
    ((∃ image, writeImage destination source = (image, none)) ↔
      source.height % 8 = 0 ∧ destination.length = source.height / 8 * source.width) ∧
    (∀ image, writeImage destination source = (image, none) ↔
      transcode destination source = .ok image) ∧
    (∀ image, writeImage destination source = (image, none) →
      image.length = destination.length ∧
      (∀ x y, x < source.width → y < source.height →
        (image.getD (y / 8 * source.width + x) 0).toNat.testBit (y % 8) = source.getPixel x y) ∧
      (∀ other : List UInt8, other.length = destination.length →
        (∀ x y, x < source.width → y < source.height →
          (other.getD (y / 8 * source.width + x) 0).toNat.testBit (y % 8) =
            source.getPixel x y) → other = image) ∧
      (∀ prior : List UInt8, prior.length = destination.length →
        writeImage prior source = (image, none)) ∧
      (∀ (other : Bitmap) (prior : List UInt8), other.size = source.size →
        writeImage prior other = (image, none) → other = source)) := by
  refine ⟨?possible, ?aside, ?pixels⟩
  case possible =>
    constructor
    · rintro ⟨image, written⟩
      exact (writeImage_eq_ok_iff.mp written).1
    · intro fits
      exact ⟨_, writeImage_eq_ok_iff.mpr ⟨fits, rfl⟩⟩
  case aside =>
    intro image
    rw [writeImage_eq_ok_iff, transcode_eq_ok_iff]
  case pixels =>
    intro image written
    obtain ⟨⟨bands, room⟩, rfl⟩ := writeImage_eq_ok_iff.mp written
    have length : source.columnBytes.length = destination.length := by
      rw [Bitmap.length_columnBytes, room]
    have shows : ∀ x y, x < source.width → y < source.height →
        bandPixel source.width source.columnBytes x y = source.getPixel x y :=
      fun x y => bandPixel_columnBytes source bands
    refine ⟨length, shows, ?_, ?_, ?_⟩
    · intro other size pixels
      apply image_ext (size.trans room) (length.trans room)
      intro x y hx hy
      rw [shows x y hx (by omega)]
      exact pixels x y hx (by omega)
    · intro prior size
      exact writeImage_eq_ok_iff.mpr ⟨⟨bands, size.trans room⟩, rfl⟩
    · intro other prior size same
      obtain ⟨⟨bands', _⟩, image⟩ := writeImage_eq_ok_iff.mp same
      apply Bitmap.ext_getPixel size
      intro x y hx hy
      rw [← bandPixel_columnBytes other bands' hx hy, ← image, Bitmap.width_of_size size]
      exact shows x y (Bitmap.width_of_size size ▸ hx) (Bitmap.height_of_size size ▸ hy)

/-- The pixel at column 9 of row 13 is bit 5 of the tenth byte of the second band, and
nothing is left of what stood in the destination. -/
theorem transcode_pixels_single :
    let frame := (Bitmap.dark ⟨16, 16⟩ (by decide)).setPixel 9 13 true
    (∃ image, writeImage (List.replicate 32 0xff) frame = (image, none) ∧
      (image.getD (13 / 8 * 16 + 9) 0).toNat.testBit (13 % 8) = true ∧
      writeImage (List.replicate 32 0) frame = (image, none) ∧
      ∀ other : Bitmap, other.size = frame.size →
        writeImage (List.replicate 32 7) other = (image, none) → other = frame) := by
  intro frame
  have width : frame.width = 16 := by decide +kernel
  have height : frame.height = 16 := by decide +kernel
  obtain ⟨possible, -, shows⟩ := transcode_pixels frame (List.replicate 32 0xff)
  obtain ⟨image, result⟩ := possible.mpr ⟨by rw [height], by rw [height, width]; decide⟩
  obtain ⟨length, pixels, _, fresh, injective⟩ := shows image result
  refine ⟨image, result, ?_, fresh _ List.length_replicate, fun other => injective other _⟩
  have lit := pixels 9 13 (by omega) (by omega)
  rw [width] at lit
  rw [lit]
  decide +kernel

/-- An image that cannot be written leaves the destination as it was. -/
theorem writeImage_eq_fault {destination after : List UInt8} {source : Bitmap} {fault : Fault}
    (h : writeImage destination source = (after, some fault)) :
    after = destination ∧ ∃ cause, fault = .bounds cause := by
  rw [writeImage] at h
  split at h
  next =>
    cases h
    exact ⟨rfl, _, rfl⟩
  next => cases h

/-- When a report is made, and which one. -/
theorem encode_eq_ok_iff {buffer report : List UInt8} {frame : Bitmap} :
    encode buffer frame = .ok report ↔
      (buffer.length = Panel.reportLength ∧ frame.height % 8 = 0 ∧
        frame.width * (frame.height / 8) = Panel.frameLength) ∧
        report = header ++ frame.columnBytes := by
  rw [encode]
  split
  next long =>
    constructor
    · intro made
      cases made
    · rintro ⟨⟨length, -⟩, -⟩
      exact absurd length long
  next length =>
    rw [not_not] at length
    have front : (buffer.take Panel.headerLength).length = Panel.headerLength := by
      rw [List.length_take, length]
      decide
    have room : (buffer.drop Panel.headerLength).length = Panel.frameLength := by
      rw [List.length_drop, length]
      decide
    cases made : transcode (buffer.drop Panel.headerLength) frame with
    | ok image =>
      obtain ⟨⟨bands, fits⟩, rfl⟩ := transcode_eq_ok_iff.mp made
      change Except.ok (stampHeader (_ ++ frame.columnBytes)) = .ok report ↔ _
      rw [stampHeader_append front, Except.ok.injEq, eq_comm]
      exact (and_iff_right ⟨length, bands, (Nat.mul_comm ..).trans (fits.symm.trans room)⟩).symm
    | error fault =>
      constructor
      · intro done
        cases done
      · rintro ⟨⟨-, bands, fits⟩, -⟩
        have image := transcode_eq_ok_iff.mpr
          ⟨⟨bands, room.trans (fits.symm.trans (Nat.mul_comm ..))⟩, rfl⟩
        rw [made] at image
        cases image

theorem write_eq_ok_iff {buffer after : List UInt8} {frame : Bitmap} :
    write buffer frame = (after, none) ↔ encode buffer frame = .ok after := by
  rw [write_eq]
  cases encode buffer frame <;> simp

/-- A report that cannot be written leaves the buffer as it was. -/
theorem write_eq_fault {buffer after : List UInt8} {frame : Bitmap} {fault : Fault}
    (h : write buffer frame = (after, some fault)) :
    after = buffer ∧ ∃ cause, fault = .bounds cause := by
  rw [write] at h
  split at h
  next =>
    cases h
    exact ⟨rfl, _, rfl⟩
  next =>
    split at h
    next image cause refused =>
      obtain ⟨rfl, bounds⟩ := writeImage_eq_fault refused
      cases h
      exact ⟨List.take_append_drop .., bounds⟩
    next => cases h

/-- A report is written if and only if the buffer has its length and the frame consists of
whole bands that fill it. It is then the report that is made on the side: the header and the
image of the frame, whatever was in the buffer. On a fault no byte has changed, neither of
the buffer nor of the destination of an image, whether or not the frame would have had the
right number of bytes. -/
theorem write_whole (buffer : List UInt8) (frame : Bitmap) :
    ((∃ after, write buffer frame = (after, none)) ↔
      buffer.length = 992 ∧ frame.height % 8 = 0 ∧ frame.width * (frame.height / 8) = 960) ∧
    (∀ after, write buffer frame = (after, none) → encode buffer frame = .ok after ∧
      after.length = 992 ∧ after[0]? = some 3 ∧ (∀ i, 1 ≤ i → i < 32 → after[i]? = some 0) ∧
      ∀ destination : List UInt8, destination.length = 960 →
        writeImage destination frame = (after.drop 32, none)) ∧
    (∀ after fault, write buffer frame = (after, some fault) →
      after = buffer ∧ ∃ cause, fault = .bounds cause) ∧
    ∀ (destination : List UInt8) (source : Bitmap) (after : List UInt8) (fault : Fault),
      writeImage destination source = (after, some fault) →
        after = destination ∧ ∃ cause, fault = .bounds cause := by
  simp only [write_eq_ok_iff]
  refine ⟨⟨?_, ?_⟩, ?_, fun _ _ => write_eq_fault, fun _ _ _ _ => writeImage_eq_fault⟩
  · rintro ⟨after, made⟩
    exact (encode_eq_ok_iff.mp made).1
  · exact fun fits => ⟨_, encode_eq_ok_iff.mpr ⟨fits, rfl⟩⟩
  · intro after made
    obtain ⟨⟨-, bands, fits⟩, rfl⟩ := encode_eq_ok_iff.mp made
    have image : frame.columnBytes.length = Panel.frameLength := by
      rw [Bitmap.length_columnBytes, Nat.mul_comm, fits]
    refine ⟨made, length_append_header image, rfl, ?_, ?_⟩
    · intro i behind before
      have zero : i - 1 < Panel.headerLength - 1 := by
        change i - 1 < 31
        omega
      have inFront : i < header.length := before
      rw [List.getElem?_append_left inFront, header, List.getElem?_cons, if_neg (by omega),
        List.getElem?_replicate, if_pos zero]
    · intro destination length
      have room : destination.length = frame.height / 8 * frame.width := by
        rw [length, Nat.mul_comm]
        exact fits.symm
      exact writeImage_eq_ok_iff.mpr ⟨⟨bands, room⟩, rfl⟩

/-- A lit frame of an odd shape that makes 960 columns is written over a buffer of rubbish. A
frame with two rows more than whole bands would make as many, and is refused. -/
theorem write_whole_shapes :
    let buffer : List UInt8 := List.replicate 992 0xee
    let lit := (Bitmap.dark ⟨120, 64⟩ (by decide)).paintAll true
    let ragged := (Bitmap.dark ⟨160, 50⟩ (by decide)).paintAll true
    (∃ after, write buffer lit = (after, none) ∧ after.length = 992 ∧ after[0]? = some 3 ∧
      after[31]? = some 0 ∧ writeImage (List.replicate 960 7) lit = (after.drop 32, none)) ∧
    ragged.width * (ragged.height / 8) = 960 ∧
    ∃ fault, write buffer ragged = (buffer, some fault) := by
  intro buffer lit ragged
  refine ⟨?_, by decide, ?_⟩
  · obtain ⟨possible, layout, -, -⟩ := write_whole buffer lit
    obtain ⟨after, written⟩ := possible.mpr ⟨List.length_replicate, by decide, by decide⟩
    obtain ⟨-, length, id, zeros, image⟩ := layout after written
    exact ⟨after, written, length, id, zeros 31 (by decide) (by decide),
      image _ List.length_replicate⟩
  · obtain ⟨possible, -, faults, -⟩ := write_whole buffer ragged
    cases written : write buffer ragged with
    | mk after fault =>
      cases fault with
      | none => exact absurd (possible.mp ⟨after, written⟩).2.1 (by decide)
      | some fault =>
        obtain ⟨rfl, -⟩ := faults after fault written
        exact ⟨fault, rfl⟩

end Report

end LcdCompositor
