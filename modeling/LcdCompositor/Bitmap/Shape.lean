import LcdCompositor.Bitmap

/-!
# Points and rectangles on a bitmap

Points come with signed coordinates and land on the bitmap only where it has a
pixel. A rectangle is filled whole or along its one pixel wide edge, which lies
inside it.
-/

namespace LcdCompositor

/-- A point to be lit or darkened, anywhere on the plane. -/
structure Dot where
  x : Int
  y : Int
  on : Bool
deriving DecidableEq, Repr

/-- A rectangle on the plane by its top left corner. -/
structure Rectangle where
  left : Int
  top : Int
  width : Nat
  height : Nat
deriving DecidableEq, Repr

namespace Rectangle

/-- The rectangle that covers a bitmap of the given size. -/
def ofSize (size : Size) : Rectangle := ⟨0, 0, size.width.toNat, size.height.toNat⟩

/-- Whether a point lies inside. -/
def contains (r : Rectangle) (x y : Int) : Bool :=
  r.left ≤ x && x < r.left + r.width && r.top ≤ y && y < r.top + r.height

/-- Whether a point lies inside and has a neighbour that does not. -/
def onEdge (r : Rectangle) (x y : Int) : Bool :=
  r.contains x y &&
    (x == r.left || x == r.left + r.width - 1 || y == r.top || y == r.top + r.height - 1)

end Rectangle

namespace Bitmap

/-- One point. Pixels have coordinates of sixteen bits, so only a point whose coordinates are
such numbers can name one. -/
def plotDot (b : Bitmap) (d : Dot) : Bitmap :=
  if 0 ≤ d.x ∧ 0 ≤ d.y ∧ d.x ≤ 65535 ∧ d.y ≤ 65535 then
    b.setPixel (UInt16.ofInt d.x).toNat (UInt16.ofInt d.y).toNat d.on
  else b

/-- All points in order, so the last one at a pixel decides. -/
def plot (b : Bitmap) (dots : List Dot) : Bitmap := dots.foldl plotDot b

/-- Paints the first `count` pixels of a row that satisfy a condition. -/
def paintRow (b : Bitmap) (y : Nat) (p : Nat → Bool) (on : Bool) (count : Nat) : Bitmap :=
  (List.range count).foldl (fun b x => if p x then b.setPixel x y on else b) b

/-- Paints every pixel that satisfies a condition. -/
def paintWhere (b : Bitmap) (p : Nat → Nat → Bool) (on : Bool) : Bitmap :=
  (List.range b.height).foldl (fun c y => c.paintRow y (fun x => p x y) on b.width) b

/-- Paints a rectangle, cut off at the edges of the bitmap. -/
def fillRectangle (b : Bitmap) (r : Rectangle) (on : Bool) : Bitmap :=
  b.paintWhere (fun x y => r.contains x y) on

/-- Paints the edge of a rectangle, one pixel wide. -/
def outlineRectangle (b : Bitmap) (r : Rectangle) (on : Bool) : Bitmap :=
  b.paintWhere (fun x y => r.onEdge x y) on

@[simp] theorem size_plotDot (b : Bitmap) (d : Dot) : (b.plotDot d).size = b.size := by
  unfold plotDot
  split
  · exact size_setPixel ..
  · rfl

@[simp] theorem size_plot (b : Bitmap) (dots : List Dot) : (b.plot dots).size = b.size := by
  induction dots generalizing b with
  | nil => rfl
  | cons d rest ih => exact (ih (b.plotDot d)).trans (size_plotDot b d)

@[simp] theorem size_paintRow (b : Bitmap) (y : Nat) (p : Nat → Bool) (on : Bool)
    (count : Nat) : (b.paintRow y p on count).size = b.size := by
  unfold paintRow
  generalize List.range count = xs
  induction xs generalizing b with
  | nil => rfl
  | cons x rest ih =>
    rw [List.foldl_cons, ih]
    split
    · exact size_setPixel ..
    · rfl

@[simp] theorem size_paintWhere (b : Bitmap) (p : Nat → Nat → Bool) (on : Bool) :
    (b.paintWhere p on).size = b.size := by
  unfold paintWhere
  generalize b.width = w
  generalize List.range b.height = ys
  induction ys generalizing b with
  | nil => rfl
  | cons y rest ih => rw [List.foldl_cons, ih, size_paintRow]

end Bitmap

end LcdCompositor
