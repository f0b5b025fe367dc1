import LcdCompositor.Bitmap.Shape
import LcdCompositor.Proofs.Bitmap.Pixel

/-!
# What a drawing leaves alone

A drawing changes a bitmap in some region and leaves every pixel outside of it. Drawings one
after the other leave what each of them leaves, so a picture can be followed through any number
of them by their regions alone. Of a shape more is known: it takes the place of whatever was in
its region.

The edge of a rectangle is such a shape. Its pixels are set one by one, each only if it lies
on the edge.
-/

namespace LcdCompositor.Bitmap

variable {old middle new : Bitmap} {region larger : Nat → Nat → Prop} {shape : Nat → Nat → Bool}

/-- Of two bitmaps of one size the new one differs from the old one in a region only. -/
structure ChangesOnly (region : Nat → Nat → Prop) (old new : Bitmap) : Prop where
  size : new.size = old.size
  outside : ∀ {px py : Nat}, ¬ region px py → new.getPixel px py = old.getPixel px py

/-- A shape stands in its region of a bitmap, and nothing else has changed. -/
structure Paints (region : Nat → Nat → Prop) (shape : Nat → Nat → Bool) (old new : Bitmap) : Prop
    extends ChangesOnly region old new where
  inside : ∀ {px py : Nat}, region px py → new.getPixel px py = shape px py

namespace ChangesOnly

theorem refl (region : Nat → Nat → Prop) (b : Bitmap) : ChangesOnly region b b :=
  ⟨rfl, fun _ => rfl⟩

theorem trans (first : ChangesOnly region old middle) (second : ChangesOnly region middle new) :
    ChangesOnly region old new :=
  ⟨second.size.trans first.size, fun out => (second.outside out).trans (first.outside out)⟩

theorem mono (h : ChangesOnly region old new) (covered : ∀ px py, region px py → larger px py) :
    ChangesOnly larger old new :=
  ⟨h.size, fun out => h.outside (mt (covered _ _) out)⟩

end ChangesOnly

theorem paints_of_getPixel [∀ px py, Decidable (region px py)] (size : new.size = old.size)
    (pixel : ∀ px py, new.getPixel px py =
      if region px py then shape px py else old.getPixel px py) : Paints region shape old new where
  size := size
  outside {px py} out := by rw [pixel, if_neg out]
  inside {px py} within := by rw [pixel, if_pos within]

section Rectangles

variable {b : Bitmap} {p : Nat → Bool} {on : Bool} {y count px py : Nat}

/-- A row that is painted up to some column has the chosen ones of its pixels set. -/
theorem getPixel_paintRow (wide : count ≤ b.width) (tall : y < b.height) :
    (b.paintRow y p on count).getPixel px py =
      if py = y ∧ px < count ∧ p px = true then on else b.getPixel px py := by
  obtain ⟨-, pixel⟩ : _ ∧ (b.paintRow y p on count).getPixel px py =
      if ∃ x < count, (px = x ∧ py = y) ∧ p x = true then on else b.getPixel px py :=
    getPixel_steps fun c x size hx => by
      have width := width_of_size size
      have height := height_of_size size
      cases chosen : p x with
      | false => exact ⟨size, by simp⟩
      | true =>
        refine ⟨(c.size_setPixel ..).trans size, ?_⟩
        rw [if_pos rfl, getPixel_setPixel]
        exact if_congr (by simp only [and_true]; omega) rfl rfl
  rw [pixel]
  refine if_congr ⟨?_, ?_⟩ rfl rfl
  · rintro ⟨x, inside, ⟨rfl, row⟩, chosen⟩
    exact ⟨row, inside, chosen⟩
  · rintro ⟨row, inside, chosen⟩
    exact ⟨px, inside, ⟨rfl, row⟩, chosen⟩

/-- Every pixel that satisfies a condition is set. -/
theorem paintWhere_paints (b : Bitmap) (p : Nat → Nat → Bool) (on : Bool) :
    Paints (fun px py => px < b.width ∧ py < b.height ∧ p px py = true) (fun _ _ => on) b
      (b.paintWhere p on) := by
  refine paints_of_getPixel (b.size_paintWhere p on) fun px py => ?_
  obtain ⟨-, pixel⟩ : _ ∧ (b.paintWhere p on).getPixel px py =
      if ∃ y < b.height, py = y ∧ px < b.width ∧ p px y = true then on else b.getPixel px py :=
    getPixel_steps fun c y size hy => by
      refine ⟨(c.size_paintRow ..).trans size, ?_⟩
      exact getPixel_paintRow (width_of_size size).ge ((height_of_size size).symm ▸ hy)
  rw [pixel]
  refine if_congr ⟨?_, ?_⟩ rfl rfl
  · rintro ⟨y, inside, rfl, wide, chosen⟩
    exact ⟨wide, inside, chosen⟩
  · rintro ⟨wide, inside, chosen⟩
    exact ⟨py, inside, rfl, wide, chosen⟩

/-- The edge of a rectangle that covers a bitmap: its first and last columns and rows. -/
theorem onEdge_ofSize {size : Size} {x y : Nat} :
    (Rectangle.ofSize size).onEdge x y = true ↔
      (x < size.width.toNat ∧ y < size.height.toNat) ∧
        (x = 0 ∨ x + 1 = size.width.toNat ∨ y = 0 ∨ y + 1 = size.height.toNat) := by
  rw [Rectangle.onEdge, Rectangle.contains, Rectangle.ofSize]
  simp only [Bool.and_eq_true, Bool.or_eq_true, decide_eq_true_eq, beq_iff_eq]
  omega

end Rectangles

end LcdCompositor.Bitmap
