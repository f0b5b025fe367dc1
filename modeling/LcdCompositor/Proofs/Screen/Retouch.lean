import LcdCompositor.Proofs.Drawing.Bar
import LcdCompositor.Proofs.Drawing.Line
import LcdCompositor.Proofs.Drawing.Padlock
import LcdCompositor.Proofs.Drawing.Text
import LcdCompositor.Proofs.Font.Genuine
import LcdCompositor.Proofs.Screen.Animation

/-!
# How far a drawing reaches

A drawing on a screen may fail at many points: there is no frame, the shape does not fit, the
font cannot be had, or one of the characters cannot be drawn. Nobody is told, so what counts is
how much of the screen can be another in any of these cases. It is one picture at most, and in
it a shape as a whole or nothing of it, and the cells of those characters that a text was drawn
up to.
-/

namespace LcdCompositor

open Bitmap

namespace Drawing

/-- A shape is drawn whole where it fits in, and otherwise nothing is drawn. -/
structure AllOrNothing (fits : Prop) (region : Nat → Nat → Prop) (shape : Nat → Nat → Bool)
    (old new : Bitmap) : Prop where
  drawn : fits → Paints region shape old new
  skipped : ¬ fits → new = old

/-- A text changes nothing where it has no sheet or starts out of range, and otherwise no more
than the cells of its characters up to the first one that does not fit. -/
structure CutShort (sheet : Option GlyphSheet) (s : String) (x y : Int) (old new : Bitmap) :
    Prop where
  missing : sheet = none → new = old
  beyond : 65535 < x ∨ 65535 < y → new = old
  confined : ∀ g left top, sheet = some g → x ≤ 65535 → y ≤ 65535 →
    left = (if x < 0 then g.centeredX s old.width else x.toNat) →
    top = (if y < 0 then g.centeredY old.height else y.toNat) →
    ∃ count, LongestFit g old s.toList left top count ∧
      ChangesOnly (fun px py => ∃ i < count, g.Covers (penAt g left s.toList i) top px py) old new

variable {target drawn : Bitmap} {percent x y size : Nat} {g : GlyphSheet} {chars : List Char}
  {left top count : Nat}

theorem progressBar_paints (drew : progressBar target percent x y = .ok drawn) :
    Paints (fun px py => 8 * (x / 8) ≤ px ∧ px < 8 * (x / 8) + 104 ∧ y ≤ py ∧ py < y + 7)
      (fun px py => barLit (min percent 100) (px - 8 * (x / 8)) (py - y)) target drawn :=
  paints_of_getPixel (size_of_progressBar drew) fun px py => (getPixel_progressBar drew px py).2

theorem padlockRows_paints {rows : List UInt8} (wide : x + 5 ≤ target.width)
    (tall : y + rows.length ≤ target.height) (narrow : ∀ row ∈ rows, Padlock.Narrow row) :
    Paints (fun px py => x ≤ px ∧ px < x + 5 ∧ y ≤ py ∧ py < y + rows.length)
      (fun px py => bitFromLeft (rows.getD (py - y) 0) (px - x)) target
      (padlockRows target x y rows) := by
  refine paints_of_getPixel (size_padlockRows ..) fun px py => ?_
  rw [getPixel_padlockRows (by omega) narrow]
  exact if_congr (by omega) rfl rfl

theorem Lettered.changesOnly (h : Lettered g target drawn chars left top count) :
    ChangesOnly (fun px py => ∃ i < count, g.Covers (penAt g left chars i) top px py) target
      drawn where
  size := h.size
  outside out := h.uncovered fun i inside covers => out ⟨i, inside, covers⟩

/-- A shape that is drawn exactly where it fits in is drawn as a whole or not at all. -/
theorem allOrNothing_attempt {shape : Bitmap → Except Fault Bitmap} {fits : Prop}
    {region : Nat → Nat → Prop} {lit : Nat → Nat → Bool}
    (drawn : fits → ∃ new, shape target = .ok new ∧ Paints region lit target new)
    (refused : ¬ fits → ∃ fault, shape target = .error fault) :
    AllOrNothing fits region lit target (attempt target shape) where
  drawn room := by
    obtain ⟨new, drew, paints⟩ := drawn room
    rwa [attempt, drew]
  skipped out := by
    obtain ⟨fault, failed⟩ := refused out
    rw [attempt, failed]
    rfl

/-- A bar on a frame of the panel. -/
theorem allOrNothing_bar (panel : target.size = Panel.size) (percent x y : Nat) :
    AllOrNothing (x + 102 ≤ 160 ∧ y + 7 ≤ 48)
      (fun px py => 8 * (x / 8) ≤ px ∧ px < 8 * (x / 8) + 104 ∧ y ≤ py ∧ py < y + 7)
      (fun px py => barLit (min percent 100) (px - 8 * (x / 8)) (py - y)) target
      (attempt target fun b => progressBar b percent x y) := by
  have width := width_of_panel panel
  have height := height_of_panel panel
  apply allOrNothing_attempt
  · intro room
    have drew : progressBar target percent x y = .ok _ := progressBar_of_inside
      (by rw [barWidth]; omega) (by rw [barHeight]; omega)
    exact ⟨_, drew, progressBar_paints drew⟩
  · intro out
    obtain ⟨cause, failed⟩ : ∃ cause, progressBar target percent x y = .error (.bounds cause) :=
      progressBar_of_outside (by rw [barWidth, barHeight]; omega)
    exact ⟨_, failed⟩

/-- A padlock on a frame of the panel. -/
theorem allOrNothing_padlock (panel : target.size = Panel.size) (locked everLocked : Bool)
    (x y : Nat) :
    AllOrNothing (x + 5 ≤ 160 ∧ y + 6 ≤ 48)
      (fun px py => x ≤ px ∧ px < x + 5 ∧ y ≤ py ∧ py < y + 6)
      (fun px py => bitFromLeft ((Padlock.rows locked everLocked).getD (py - y) 0) (px - x))
      target (attempt target fun b => padlock b (Padlock.rows locked everLocked) x y) := by
  have width := width_of_panel panel
  have height := height_of_panel panel
  have length := Padlock.length_rows locked everLocked
  apply allOrNothing_attempt
  · intro room
    have wide : x + 5 ≤ target.width := by omega
    have tall : y + (Padlock.rows locked everLocked).length ≤ target.height := by omega
    have paints := padlockRows_paints wide tall (Padlock.narrow_rows locked everLocked)
    rw [length] at paints
    exact ⟨_, padlock_eq_ok wide tall, paints⟩
  · intro out
    have refused : padlock target (Padlock.rows locked everLocked) x y = .error _ :=
      (padlock_eq_error_iff (by omega)).mpr ⟨by omega, rfl⟩
    exact ⟨_, refused⟩

/-- A line on a frame of the panel. -/
theorem allOrNothing_line (panel : target.size = Panel.size) (x y size : Nat) :
    AllOrNothing (size = 0 ∨ x < 160 ∧ y + size ≤ 48)
      (fun px py => px = x ∧ y ≤ py ∧ py < y + size) (fun _ _ => true) target
      (attempt target fun b => verticalLine b x y size) := by
  rw [← width_of_panel panel, ← height_of_panel panel]
  apply allOrNothing_attempt
  · intro room
    have drew := verticalLine_eq_ok_iff.mpr ⟨room, rfl⟩
    exact ⟨_, drew, verticalLine_paints drew⟩
  · intro out
    cases drew : verticalLine target x y size with
    | error fault => exact ⟨fault, rfl⟩
    | ok new => exact absurd (verticalLine_eq_ok_iff.mp drew).1 out

theorem cutShort_inscribe {sheet : Option GlyphSheet}
    (accepted : ∀ g, sheet = some g → g.Accepted) (target : Bitmap) (s : String) (x y : Int) :
    CutShort sheet s x y target (inscribe sheet target s x y) where
  missing none := by
    rw [none]
    rfl
  beyond far := by
    cases sheet with
    | none => rfl
    | some g =>
      rw [inscribe]
      by_cases wide : 65535 < x
      · rw [text, textStart_of_gt wide]
      · rw [text, textStart_of_le (by omega), textStart_of_gt (by omega)]
  confined g left top found hx hy hl ht := by
    obtain ⟨count, longest, -, lettered⟩ := text_lettered (accepted g found) hx hy target s hl ht
    rw [found]
    exact ⟨count, longest, lettered.changesOnly⟩

end Drawing

namespace Screen

/-- Of two screens the second differs from the first in the picture of one slot at most, and
in it by an effect. -/
structure Retouched (s t : Screen) (slot : Slot) (effect : Bitmap → Bitmap → Prop) : Prop where
  rest : t = { s with frames := t.frames }
  counts : t.counts = s.counts
  others : ∀ i, i ≠ s.place slot → t.frames[i]? = s.frames[i]?
  vacant : ∀ fault, s.picture slot = .error fault → t = s
  shown : ∀ old, s.picture slot = .ok old →
    ∃ new, t.picture slot = .ok new ∧ new.size = old.size ∧ effect old new

variable {s t : Screen} {slot : Slot} {effect : Bitmap → Bitmap → Prop}

theorem retouched_of_setPicture (draw : Bitmap → Bitmap)
    (shown : ∀ old, s.picture slot = .ok old →
      t = s.setPicture slot (draw old) ∧ (draw old).size = old.size ∧ effect old (draw old))
    (vacant : ∀ fault, s.picture slot = .error fault → t = s) : s.Retouched t slot effect := by
  cases found : s.picture slot with
  | error fault =>
    obtain rfl := vacant fault found
    exact ⟨rfl, rfl, fun _ _ => rfl, fun _ _ => rfl, fun old here => by
      rw [found] at here
      cases here⟩
  | ok old =>
    obtain ⟨rfl, size, changed⟩ := shown old found
    refine ⟨rfl, counts_setPicture .., ?_, fun fault none => ?_, fun _ here => ?_⟩
    · intro i other
      exact List.getElem?_modify_ne _ _ fun same => other same.symm
    · rw [found] at none
      cases none
    · cases found.symm.trans here
      exact ⟨_, picture_setPicture _ found, size, changed⟩

end Screen

namespace Scene

variable {s : Screen} {slot : Slot}

/-- A shape on the picture on show. -/
theorem retouched_drawOr (sized : ∀ frame ∈ s.frames, frame.picture.size = Panel.size)
    (studio : Studio) (what : String) {shape : Bitmap → Except Fault Bitmap}
    {effect : Bitmap → Bitmap → Prop}
    (keeps : ∀ {b drawn}, shape b = .ok drawn → drawn.size = b.size)
    (changed : ∀ {old}, old.size = Panel.size → effect old (Drawing.attempt old shape)) :
    s.Retouched (drawOr ⟨s, studio⟩ what shape).screen .current effect := by
  refine Screen.retouched_of_setPicture (Drawing.attempt · shape) ?_ ?_
  · intro old shown
    obtain ⟨frame, member, rfl⟩ := Screen.exists_frame_of_picture shown
    exact ⟨screen_drawOr ⟨s, studio⟩ shown what shape, Drawing.size_attempt keeps,
      changed (sized frame member)⟩
  · intro fault vacant
    exact screen_drawOr_of_vacant ⟨s, studio⟩ vacant what shape

/-- A text in a slot. -/
theorem retouched_write (s : Screen) {studio : Studio} (checked : studio.fonts.Checked)
    (slot : Slot) (font : Font) (text : String) (x y : Int) :
    s.Retouched (write ⟨s, studio⟩ slot font text x y).screen slot
      (Drawing.CutShort (studio.answers font) text x y) := by
  refine Screen.retouched_of_setPicture (Drawing.inscribe (studio.answers font) · text x y) ?_ ?_
  · intro old found
    exact ⟨screen_write ⟨s, studio⟩ found font text x y, Drawing.size_inscribe ..,
      Drawing.cutShort_inscribe (fun g => Studio.accepted_of_answers checked) old text x y⟩
  · intro fault vacant
    exact screen_write_of_vacant ⟨s, studio⟩ vacant font text x y

/-- Whatever is drawn on a screen, and whether it can be drawn or not, at most one picture is
another after it: the one on show, or that of the slot that a text is written into. Nothing
else changes, but that a closed padlock is remembered. Bar, padlock and line are drawn whole
where they fit in and are left out where they do not; a line lights its own pixels only. A text
touches the cells of its characters up to the first one that cannot be drawn, so no row but
those of its line. -/
theorem drawing_confined {s : Screen} {studio : Studio}
    (sized : ∀ frame ∈ s.frames, frame.picture.size = Panel.size)
    (checked : studio.fonts.Checked) :
    (∀ percent x y, s.Retouched (bar ⟨s, studio⟩ percent x y).screen .current
      (Drawing.AllOrNothing (x + 102 ≤ 160 ∧ y + 7 ≤ 48)
        (fun px py => 8 * (x / 8) ≤ px ∧ px < 8 * (x / 8) + 104 ∧ y ≤ py ∧ py < y + 7)
        fun px py => Drawing.barLit (min percent 100) (px - 8 * (x / 8)) (py - y))) ∧
    (∀ locked x y,
      { s with everLocked := locked || s.everLocked }.Retouched
        (padlock ⟨s, studio⟩ locked x y).screen .current
        (Drawing.AllOrNothing (x + 5 ≤ 160 ∧ y + 6 ≤ 48)
          (fun px py => x ≤ px ∧ px < x + 5 ∧ y ≤ py ∧ py < y + 6)
          fun px py =>
            bitFromLeft ((Padlock.rows locked s.everLocked).getD (py - y) 0) (px - x))) ∧
    (∀ x y size, s.Retouched (line ⟨s, studio⟩ x y size).screen .current
      (Drawing.AllOrNothing (size = 0 ∨ x < 160 ∧ y + size ≤ 48)
        (fun px py => px = x ∧ y ≤ py ∧ py < y + size) fun _ _ => true)) ∧
    ∀ slot font text x y, s.Retouched (write ⟨s, studio⟩ slot font text x y).screen slot
      (Drawing.CutShort (studio.answers font) text x y) := by
  refine ⟨?bar, ?padlock, ?line, fun slot font text x y => ?text⟩
  case bar =>
    intro percent x y
    exact retouched_drawOr sized studio _ Drawing.size_of_progressBar
      fun panel => Drawing.allOrNothing_bar panel percent x y
  case padlock =>
    intro locked x y
    cases locked with
    | false =>
      exact retouched_drawOr sized studio _ Drawing.size_of_padlock
        fun panel => Drawing.allOrNothing_padlock panel false s.everLocked x y
    | true =>
      exact retouched_drawOr (s := s.markLocked) sized studio _ Drawing.size_of_padlock
        fun panel => Drawing.allOrNothing_padlock panel true true x y
  case line =>
    intro x y size
    exact retouched_drawOr sized studio _ Drawing.size_of_verticalLine
      fun panel => Drawing.allOrNothing_line panel x y size
  case text => exact retouched_write s checked slot font text x y

/-- A dark frame on show and a lit one behind it. A closed padlock that does not fit is
remembered and not drawn. A line reaches the last row or, one row lower, is left out. A text
with an unknown character in its middle is written on the lit frame as far as its first cell,
and the frame on show does not notice. -/
theorem drawing_confined_pair :
    let lit := Bitmap.blankFrame.fill 0xff
    let s : Screen :=
      { Screen.new ⟨8, "demo", ""⟩ .normal with frames := [⟨Bitmap.blankFrame, 0⟩, ⟨lit, 5⟩] }
    let sheet := Bitmap.dark ⟨128, 48⟩ (by decide)
    let g : GlyphSheet := ⟨Font.mono8x8.spec, sheet, Font.mono8x8.spec.placements⟩
    let studio : Studio := ⟨FileTree.empty, (FontCache.empty "").insert .mono8x8 g, []⟩
    let written := (write ⟨s, studio⟩ .last .mono8x8 "A¤B" 4 0).screen
    (padlock ⟨s, studio⟩ true 156 0).screen.everLocked = true ∧
      (padlock ⟨s, studio⟩ true 156 0).screen.picture .current = .ok Bitmap.blankFrame ∧
      (∃ new, (line ⟨s, studio⟩ 159 40 8).screen.picture .current = .ok new ∧
        new.getPixel 159 47 = true ∧ new.getPixel 158 47 = false) ∧
      (line ⟨s, studio⟩ 159 41 8).screen.picture .current = .ok Bitmap.blankFrame ∧
      written.frames[0]? = s.frames[0]? ∧
      ∃ new, written.picture .last = .ok new ∧ new.getPixel 12 0 = true ∧
        new.getPixel 4 8 = true := by
  intro lit s sheet g studio written
  have made : GlyphSheet.ofBitmap sheet Font.mono8x8.spec = .ok g :=
    GlyphSheet.ofBitmap_of_isOk (by decide +kernel)
  have sized : ∀ frame ∈ s.frames, frame.picture.size = Panel.size := by
    intro frame member
    simp only [s, List.mem_cons, List.not_mem_nil, or_false] at member
    obtain rfl | rfl := member <;> rfl
  have checked : studio.fonts.Checked :=
    ((FontCache.genuine_empty "").insert made).checked
  have dark : s.picture .current = .ok Bitmap.blankFrame := rfl
  obtain ⟨-, locks, lines, texts⟩ := drawing_confined sized checked
  refine ⟨?remembered, ?skipped, ?reaching, ?leftOut, ?spared, ?short⟩
  case remembered => rw [(locks true 156 0).rest]; rfl
  case skipped =>
    obtain ⟨new, shown, -, effect⟩ := (locks true 156 0).shown _ dark
    rw [shown, effect.skipped (by decide)]
  case reaching =>
    obtain ⟨new, shown, -, effect⟩ := (lines 159 40 8).shown _ dark
    have drawn := effect.drawn (.inr (by decide))
    refine ⟨new, shown, drawn.inside (by decide), ?_⟩
    rw [drawn.outside (by decide)]
    decide +kernel
  case leftOut =>
    obtain ⟨new, shown, -, effect⟩ := (lines 159 41 8).shown _ dark
    rw [shown, effect.skipped (by decide)]
  case spared => exact (texts .last .mono8x8 "A¤B" 4 0).others 0 (by decide)
  case short =>
    obtain ⟨new, shown, -, effect⟩ := (texts .last .mono8x8 "A¤B" 4 0).shown lit rfl
    obtain ⟨count, longest, changed⟩ :=
      effect.confined g 4 0 rfl (by decide) (by decide) rfl rfl
    have unknown : g.cell '¤' = none := by decide +kernel
    have first : count ≤ 1 := by
      by_contra more
      obtain ⟨⟨cell, found⟩, -⟩ := longest.fitting 1 (by omega) '¤' rfl
      rw [unknown] at found
      cases found
    have untouched {px py : Nat} (out : ¬ g.Covers 4 0 px py) :
        new.getPixel px py = lit.getPixel px py := by
      apply changed.outside
      rintro ⟨i, inside, covers⟩
      obtain rfl : i = 0 := by omega
      exact out covers
    refine ⟨new, shown, ?_, ?_⟩
    · rw [untouched (by decide +kernel)]
      decide +kernel
    · rw [untouched (by decide +kernel)]
      decide +kernel

end Scene

end LcdCompositor
