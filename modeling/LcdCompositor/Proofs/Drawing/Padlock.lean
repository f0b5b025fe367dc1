import LcdCompositor.Proofs.Bitmap.Pixel
import LcdCompositor.Proofs.Screen.Operation

/-!
# What a padlock leaves on a frame

The rows of a padlock cover a rectangle of five columns. Inside it the frame shows the
rows, whatever it showed before; outside it shows what it showed before. The rows keep
to the five columns, so the three other pixels of their bytes never come in.

None of this depends on which rows they are, on how many there are, or on where in a byte
the rectangle starts. A padlock that would leave the frame is not drawn at all.
-/

namespace LcdCompositor

open Bitmap

namespace Padlock

/-- A row keeps to the columns of a padlock. -/
def Narrow (row : UInt8) : Prop := ∀ i < 8, bitFromLeft row i = true → bitFromLeft mask i = true

theorem bitFromLeft_mask {i : Nat} (hi : i < 8) : bitFromLeft mask i = decide (i < 5) := by
  revert i
  decide

theorem narrow_rows (locked everLocked : Bool) :
    ∀ row ∈ rows locked everLocked, Narrow row := by
  have narrow : ∀ row ∈ closed ++ opened ++ absent, ∀ i < 8,
      bitFromLeft row i = true → bitFromLeft mask i = true := by
    decide +kernel
  intro row member
  apply narrow row
  rw [rows] at member
  cases locked <;> cases everLocked <;> simp_all

/-- A row whose last three bits are not set keeps to the columns of a padlock. -/
theorem narrow_of_low {row : UInt8} (low : row &&& 0b111 = 0) : Narrow row := by
  intro i hi set
  rw [bitFromLeft_mask hi, decide_eq_true_eq]
  by_contra behind
  have among : bitFromLeft 0b111 i = true := by
    have places : i = 5 ∨ i = 6 ∨ i = 7 := by omega
    rcases places with rfl | rfl | rfl <;> rfl
  have both := bitFromLeft_and row 0b111 i
  rw [low, bitFromLeft_zero, set, among] at both
  cases both

theorem length_rows (locked everLocked : Bool) : (rows locked everLocked).length = 6 := by
  cases locked <;> cases everLocked <;> rfl

/-- The rows of a padlock stand in the place of the padlock, in a picture given by its
pixels. -/
def StandsIn (pixel : Nat → Nat → Bool) (rows : List UInt8) : Prop :=
  ∀ x < 5, ∀ y < 6, pixel (column + x) (row + y) = bitFromLeft (rows.getD y 0) x

end Padlock

namespace Drawing

open Padlock

variable {target : Bitmap} {x y px py : Nat}

/-- One row at a time: what the rows below cover they show, and the row above has been
laid over the frame before them. -/
theorem getPixel_padlockRows {rows : List UInt8} (hx : x < target.width)
    (narrow : ∀ row ∈ rows, Narrow row) :
    (padlockRows target x y rows).getPixel px py =
      if x ≤ px ∧ px < x + 5 ∧ y ≤ py ∧ py < y + rows.length ∧ px < target.width ∧
          py < target.height then
        bitFromLeft (rows.getD (py - y) 0) (px - x)
      else target.getPixel px py := by
  induction rows generalizing target y with
  | nil => rw [padlockRows, if_neg (by simp; omega)]
  | cons glyph rest ih =>
    obtain ⟨first, others⟩ := List.forall_mem_cons.mp narrow
    have width := width_of_size (target.size_stamp x y mask glyph)
    have height := height_of_size (target.size_stamp x y mask glyph)
    rw [padlockRows, ih (width ▸ hx) others, width, height, getPixel_stamp_of_covered hx first,
      List.length_cons]
    by_cases top : py = y
    · rw [if_neg (by omega)]
      by_cases inside : x ≤ px ∧ px < x + 5 ∧ px < target.width ∧ py < target.height
      · have masked : bitFromLeft mask (px - x) = true := by
          rw [bitFromLeft_mask (by omega)]
          exact decide_eq_true (by omega)
        rw [if_pos ⟨top, inside.1, by omega, inside.2.2.1, inside.2.2.2, masked⟩,
          if_pos (by omega), show py - y = 0 by omega, List.getD_cons_zero]
      · rw [if_neg, if_neg (by omega)]
        rintro ⟨-, left, right, wide, high, masked⟩
        rw [bitFromLeft_mask (by omega), decide_eq_true_eq] at masked
        omega
    · rw [if_neg (c := py = y ∧ _) fun here => top here.1]
      by_cases below : x ≤ px ∧ px < x + 5 ∧ y + 1 ≤ py ∧ py < y + 1 + rest.length ∧
          px < target.width ∧ py < target.height
      · rw [if_pos below, if_pos (by omega), show py - y = py - (y + 1) + 1 by omega,
          List.getD_cons_succ]
      · rw [if_neg below, if_neg (by omega)]

theorem padlock_eq_ok {rows : List UInt8} (wide : x + 5 ≤ target.width)
    (high : y + rows.length ≤ target.height) :
    padlock target rows x y = .ok (padlockRows target x y rows) := by
  rw [padlock, padlockWidth, if_neg (by omega)]

/-- On a frame of the panel every padlock can be drawn, and its rows then stand there. -/
theorem padlock_of_panel (size : target.size = Panel.size) (locked everLocked : Bool) :
    ∃ drawn, padlock target (rows locked everLocked) column row = .ok drawn ∧
      StandsIn drawn.getPixel (rows locked everLocked) := by
  have length := length_rows locked everLocked
  have narrow := narrow_rows locked everLocked
  have width := width_of_panel size
  have height := height_of_panel size
  refine ⟨_, padlock_eq_ok ?_ ?_, ?_⟩
  · rw [width]
    decide
  · rw [height, length]
    decide
  · intro x hx y hy
    rw [getPixel_padlockRows (by rw [width]; decide) narrow, column, row, if_pos (by omega),
      Nat.add_sub_cancel_left, Nat.add_sub_cancel_left]

/-- A padlock is drawn if it fits in, and in one way. -/
theorem padlock_eq_ok_iff {rows : List UInt8} {drawn : Bitmap} (wide : 8 ≤ target.width) :
    padlock target rows x y = .ok drawn ↔
      (x + 5 ≤ target.width ∧ y + rows.length ≤ target.height) ∧
        drawn = padlockRows target x y rows := by
  by_cases fits : x + 5 ≤ target.width ∧ y + rows.length ≤ target.height
  · rw [padlock_eq_ok fits.1 fits.2, Except.ok.injEq, and_iff_right fits, eq_comm]
  · rw [padlock, padlockWidth, if_pos (by omega)]
    exact iff_of_false nofun fun drew => fits drew.1

/-- Else it is refused, and for one reason. -/
theorem padlock_eq_error_iff {rows : List UInt8} {fault : Fault} (wide : 8 ≤ target.width) :
    padlock target rows x y = .error fault ↔
      (target.width < x + 5 ∨ target.height < y + rows.length) ∧
        fault = .bounds (.padlockOutside x y) := by
  by_cases fits : x + 5 ≤ target.width ∧ y + rows.length ≤ target.height
  · rw [padlock_eq_ok fits.1 fits.2]
    exact iff_of_false nofun fun refused => by omega
  · rw [padlock, padlockWidth, if_pos (by omega), Except.error.injEq, eq_comm]
    exact (and_iff_right (by omega)).symm

/-- A padlock is refused if and only if its five columns pass the right edge or its rows the
lower one, and the frame then stays as it was. Otherwise each of its rows stands in five
columns, at whatever bit of a byte they start and whatever the frame showed there, and every
other pixel stays. -/
theorem padlock_pixels (target : Bitmap) (rows : List UInt8) (x y : Nat)
    (wide : 8 ≤ target.width) (low : ∀ row ∈ rows, row &&& 0b111 = 0) :
    ((∃ cause, padlock target rows x y = .error (.bounds cause)) ↔
      target.width < x + 5 ∨ target.height < y + rows.length) ∧
    ((∃ drawn, padlock target rows x y = .ok drawn) ↔
      x + 5 ≤ target.width ∧ y + rows.length ≤ target.height) ∧
    (∀ fault, padlock target rows x y = .error fault → ∀ (scene : Scene) (what : String),
      scene.screen.picture .current = .ok target →
        (scene.drawOr what fun b => padlock b rows x y).screen = scene.screen) ∧
    (∀ drawn, padlock target rows x y = .ok drawn → drawn.size = target.size ∧
      (∀ r c row, rows[r]? = some row → c < 5 →
        drawn.getPixel (x + c) (y + r) = row.toNat.testBit (7 - c)) ∧
      ∀ px py, ¬ (x ≤ px ∧ px < x + 5 ∧ y ≤ py ∧ py < y + rows.length) →
        drawn.getPixel px py = target.getPixel px py) := by
  refine ⟨?refused, ?drawn, ?kept, ?pixels⟩
  case refused =>
    simp only [padlock_eq_error_iff wide, Fault.bounds.injEq, exists_and_left, exists_eq, and_true]
  case drawn => simp only [padlock_eq_ok_iff wide, exists_and_left, exists_eq, and_true]
  case kept =>
    intro fault failed scene what shown
    exact Screen.screen_drawOr_of_error what shown failed
  case pixels =>
    intro drawn drew
    obtain ⟨⟨right, bottom⟩, rfl⟩ := (padlock_eq_ok_iff wide).mp drew
    have pixel (px py : Nat) : (padlockRows target x y rows).getPixel px py = _ :=
      getPixel_padlockRows (by omega) fun row member => narrow_of_low (low row member)
    refine ⟨size_padlockRows .., ?_, ?_⟩
    · intro r c row here hc
      obtain ⟨inside, -⟩ := List.getElem?_eq_some_iff.mp here
      rw [pixel, if_pos (by omega), Nat.add_sub_cancel_left, Nat.add_sub_cancel_left,
        List.getD_eq_getElem?_getD, here, Option.getD_some, bitFromLeft]
    · intro px py outside
      rw [pixel, if_neg fun inside => outside (by omega)]

/-- Two rows at the right edge of a lit frame, with no byte behind theirs: what they cover is
put out where they are dark, and the pixel beside them stays lit. One column further to the
right there is no room, and one row further down neither. -/
theorem padlock_pixels_edge :
    let frame := (Bitmap.dark ⟨16, 8⟩ (by decide)).fill 0xff
    let rows : List UInt8 := [0x70, 0xd8]
    (∃ drawn, padlock frame rows 11 6 = .ok drawn ∧ drawn.getPixel 11 6 = false ∧
      drawn.getPixel 12 6 = true ∧ drawn.getPixel 13 7 = false ∧ drawn.getPixel 15 7 = true ∧
      drawn.getPixel 10 6 = true) ∧
      (∃ cause, padlock frame rows 12 6 = .error (.bounds cause)) ∧
      ∃ cause, padlock frame rows 11 7 = .error (.bounds cause) := by
  intro frame rows
  have width : frame.width = 16 := by decide +kernel
  have height : frame.height = 8 := by decide +kernel
  have length : rows.length = 2 := rfl
  have wide : 8 ≤ frame.width := by omega
  have low : ∀ row ∈ rows, row &&& 0b111 = 0 := by
    intro row member
    simp only [rows, List.mem_cons, List.not_mem_nil, or_false] at member
    obtain rfl | rfl := member <;> rfl
  obtain ⟨-, fits, -, shows⟩ := padlock_pixels frame rows 11 6 wide low
  obtain ⟨drawn, drew⟩ := fits.mpr (by omega)
  obtain ⟨-, inside, outside⟩ := shows drawn drew
  refine ⟨⟨drawn, drew, ?_, ?_, ?_, ?_, ?_⟩, ?_, ?_⟩
  · exact (inside 0 0 0x70 rfl (by decide)).trans (by decide)
  · exact (inside 0 1 0x70 rfl (by decide)).trans (by decide)
  · exact (inside 1 2 0xd8 rfl (by decide)).trans (by decide)
  · exact (inside 1 4 0xd8 rfl (by decide)).trans (by decide)
  · rw [outside 10 6 (by omega)]
    decide +kernel
  · exact (padlock_pixels frame rows 12 6 wide low).1.mpr (.inl (by omega))
  · exact (padlock_pixels frame rows 11 7 wide low).1.mpr (.inr (by omega))

end Drawing

end LcdCompositor
