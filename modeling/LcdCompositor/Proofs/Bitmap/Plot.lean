import LcdCompositor.Bitmap.Shape
import LcdCompositor.Proofs.Bitmap.Pixel

/-!
# What a list of points leaves

Points come in any order, any number of times and from anywhere on the plane. One point sets
the pixel that has its coordinates, if there is one, and nothing else. So of all the points at
a pixel the last one decides, and points without a pixel could as well be left out: their
coordinates are not cut down to those of another pixel.
-/

namespace LcdCompositor

namespace Dot

/-- The point is where the pixel is. -/
def At (d : Dot) (x y : Nat) : Prop := d.x = x ∧ d.y = y

/-- The bitmap has a pixel where the point is. -/
def On (d : Dot) (b : Bitmap) : Prop := 0 ≤ d.x ∧ d.x < b.width ∧ 0 ≤ d.y ∧ d.y < b.height

instance (d : Dot) (x y : Nat) : Decidable (d.At x y) := inferInstanceAs (Decidable (_ ∧ _))

end Dot

namespace Bitmap

variable {b : Bitmap} {d : Dot} {dots front back : List Dot} {px py : Nat}

theorem width_lt (b : Bitmap) : b.width < 65536 := b.size.width.toNat_lt

theorem height_lt (b : Bitmap) : b.height < 65536 := b.size.height.toNat_lt

/-- Bitmaps of one size have the same pixels inside. -/
theorem inside_of_size {a b : Bitmap} (size : a.size = b.size)
    (inside : px < b.width ∧ py < b.height) : px < a.width ∧ py < a.height := by
  rwa [width_of_size size, height_of_size size]

/-- A number of sixteen bits stays what it is when it is made one. -/
theorem toNat_ofInt {x : Int} (low : 0 ≤ x) (high : x ≤ 65535) :
    (UInt16.ofInt x).toNat = x.toNat := by
  change (x % 2 ^ 16).toNat % 2 ^ 16 = x.toNat
  omega

/-- One point sets the pixel that has its coordinates. -/
theorem getPixel_plotDot (inside : px < b.width ∧ py < b.height) :
    (b.plotDot d).getPixel px py = if d.At px py then d.on else b.getPixel px py := by
  have width := b.width_lt
  have height := b.height_lt
  rw [plotDot]
  split
  next possible =>
    rw [getPixel_setPixel, toNat_ofInt possible.1 possible.2.2.1,
      toNat_ofInt possible.2.1 possible.2.2.2]
    exact if_congr (by rw [Dot.At]; omega) rfl rfl
  next impossible => rw [if_neg (by rw [Dot.At]; omega)]

/-- A point without a pixel changes nothing. -/
theorem plotDot_of_not_on (off : ¬ d.On b) : b.plotDot d = b := by
  rw [Dot.On] at off
  rw [plotDot]
  split
  next possible =>
    rw [setPixel, byteIndex, toNat_ofInt possible.1 possible.2.2.1,
      toNat_ofInt possible.2.1 possible.2.2.2, if_neg (by omega)]
  next impossible => rfl

theorem plot_append (b : Bitmap) (front back : List Dot) :
    b.plot (front ++ back) = (b.plot front).plot back := List.foldl_append

/-- A pixel where no point is stays as it was. -/
theorem getPixel_plot_of_not_at (inside : px < b.width ∧ py < b.height)
    (elsewhere : ∀ d ∈ dots, ¬ d.At px py) : (b.plot dots).getPixel px py = b.getPixel px py := by
  induction dots generalizing b with
  | nil => rfl
  | cons d rest ih =>
    obtain ⟨first, others⟩ := List.forall_mem_cons.mp elsewhere
    have room : px < (b.plotDot d).width ∧ py < (b.plotDot d).height :=
      inside_of_size (b.size_plotDot d) inside
    exact (ih room others).trans ((getPixel_plotDot inside).trans (if_neg first))

/-- Of the points at a pixel the last one decides what it shows. -/
theorem getPixel_plot_of_last (inside : px < b.width ∧ py < b.height) (here : d.At px py)
    (last : ∀ later ∈ back, ¬ later.At px py) :
    (b.plot (front ++ d :: back)).getPixel px py = d.on := by
  have room : px < (b.plot front).width ∧ py < (b.plot front).height :=
    inside_of_size (b.size_plot front) inside
  have behind : px < ((b.plot front).plotDot d).width ∧ py < ((b.plot front).plotDot d).height :=
    inside_of_size (size_plotDot ..) room
  rw [plot_append]
  calc ((b.plot front).plot (d :: back)).getPixel px py
      = ((b.plot front).plotDot d).getPixel px py := getPixel_plot_of_not_at behind last
    _ = d.on := (getPixel_plotDot room).trans (if_pos here)

/-- A point without a pixel can be left out. -/
theorem plot_of_not_on (off : ¬ d.On b) :
    b.plot (front ++ d :: back) = b.plot (front ++ back) := by
  have size := b.size_plot front
  have stays : (b.plot front).plotDot d = b.plot front := plotDot_of_not_on <| by
    rwa [Dot.On, width_of_size size, height_of_size size]
  rw [plot_append, plot_append]
  exact congrArg (·.plot back) stays

/-- After a list of points every pixel shows what the last point with its coordinates asks for,
and without such a point what it showed before. A point that is left of the bitmap or above it,
right of it or below it, however far, has no effect on any pixel. -/
theorem plot_pixels (b : Bitmap) (dots : List Dot) :
    (b.plot dots).size = b.size ∧
    (∀ px py, px < b.width → py < b.height →
      (∀ front d back, dots = front ++ d :: back → d.At px py →
        (∀ later ∈ back, ¬ later.At px py) → (b.plot dots).getPixel px py = d.on) ∧
      ((∀ d ∈ dots, ¬ d.At px py) → (b.plot dots).getPixel px py = b.getPixel px py)) ∧
    ∀ front d back, dots = front ++ d :: back →
      d.x < 0 ∨ d.y < 0 ∨ (b.width : Int) ≤ d.x ∨ (b.height : Int) ≤ d.y →
        b.plot dots = b.plot (front ++ back) := by
  refine ⟨b.size_plot dots, fun px py wide tall => ⟨?last, ?none⟩, ?out⟩
  case last =>
    rintro front d back rfl here last
    exact getPixel_plot_of_last ⟨wide, tall⟩ here last
  case none => exact getPixel_plot_of_not_at ⟨wide, tall⟩
  case out =>
    rintro front d back rfl off
    exact plot_of_not_on (by rw [Dot.On]; omega)

-- One pixel three times, and four points that would be pixels of the bitmap if their coordinates
-- wrapped or ran on into the next row.
example :
    let b := Bitmap.dark ⟨16, 2⟩ (by decide)
    b.plot [⟨9, 1, true⟩, ⟨9, 1, false⟩, ⟨9, 1, true⟩, ⟨16, 0, true⟩, ⟨-1, 1, true⟩,
      ⟨65536, 0, true⟩, ⟨3, 65537, true⟩] = b.setPixel 9 1 true := by
  decide +kernel

end Bitmap

end LcdCompositor
