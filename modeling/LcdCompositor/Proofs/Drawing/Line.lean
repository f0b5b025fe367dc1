import LcdCompositor.Drawing
import LcdCompositor.Proofs.Bitmap.Region

/-!
# What a vertical line leaves on a frame

A line lights its pixels one by one from the top down and puts none out. It is drawn if its
column and its rows are there, and a line without pixels is drawn anywhere.
-/

namespace LcdCompositor.Drawing

open Bitmap

variable {target drawn : Bitmap} {x y size : Nat}

/-- A line is drawn if it has no pixels or all of them are inside, and in one way. -/
theorem verticalLine_eq_ok_iff :
    verticalLine target x y size = .ok drawn ↔
      (size = 0 ∨ x < target.width ∧ y + size ≤ target.height) ∧
        drawn = (List.range size).foldl (fun b i => b.setPixel x (y + i) true) target := by
  rw [verticalLine]
  split
  next none =>
    subst none
    exact ⟨fun drew => ⟨.inl rfl, (Except.ok.inj drew).symm⟩, fun same => congrArg _ same.2.symm⟩
  next some =>
    split
    next outside => exact iff_of_false nofun fun fits => by omega
    next inside => exact ⟨fun drew => ⟨by omega, (Except.ok.inj drew).symm⟩,
      fun same => congrArg _ same.2.symm⟩

/-- A line lights the pixels of its column from its first row to its last. -/
theorem verticalLine_paints (drew : verticalLine target x y size = .ok drawn) :
    Paints (fun px py => px = x ∧ y ≤ py ∧ py < y + size) (fun _ _ => true) target drawn := by
  obtain ⟨fits, rfl⟩ := verticalLine_eq_ok_iff.mp drew
  have steps (px py : Nat) (b : Bitmap) (i : Nat) (same : b.size = target.size) (hi : i < size) :
      (b.setPixel x (y + i) true).size = target.size ∧
        (b.setPixel x (y + i) true).getPixel px py =
          if px = x ∧ py = y + i then true else b.getPixel px py := by
    have width := width_of_size same
    have height := height_of_size same
    refine ⟨(b.size_setPixel ..).trans same, ?_⟩
    rw [getPixel_setPixel]
    exact if_congr (by omega) rfl rfl
  refine paints_of_getPixel (getPixel_steps (steps 0 0)).1 fun px py => ?_
  rw [(getPixel_steps (steps px py)).2]
  refine if_congr ⟨?_, ?_⟩ rfl rfl
  · rintro ⟨i, hi, column, row⟩
    omega
  · rintro ⟨column, above, below⟩
    exact ⟨py - y, by omega, column, by omega⟩

end LcdCompositor.Drawing
