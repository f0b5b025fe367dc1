import LcdCompositor.Proofs.Screen.Operation

/-!
# The course of an animation

Where an animation goes depends on where it stands and on the counts of the frames,
and on nothing else. Drawing touches neither, so a screen may be redrawn between two
steps without disturbing its animation.
-/

namespace LcdCompositor

namespace Screen

variable {s t u v : Screen}

/-- Where the animation stands: the frame on show, and for how long it has been. -/
def position (s : Screen) : Nat × Nat := (s.index, s.ticks)

/-- For how long each of the frames is shown. -/
def counts (s : Screen) : List UInt16 := s.frames.map Frame.count

@[simp] theorem length_counts (s : Screen) : s.counts.length = s.frames.length :=
  List.length_map ..

/-- So many steps of the animation. -/
def advances (s : Screen) : Nat → Except Fault Screen
  | 0 => .ok s
  | n + 1 => do
    let t ← s.advances n
    t.advance

theorem advances_succ {n : Nat} (h : s.advances n = .ok t) (moved : t.advance = .ok u) :
    s.advances (n + 1) = .ok u := by
  rw [advances, h]
  exact moved

/-- A step of the animation in terms of the counts. -/
theorem position_of_advance (h : s.advance = .ok t) :
    ∃ count, s.counts[s.index]? = some count ∧
      t.position = if count.toNat ≤ s.ticks then ((s.index + 1) % s.counts.length, 0)
        else (s.index, s.ticks + 1) := by
  rw [advance] at h
  split at h
  · cases h
  next frame found =>
    refine ⟨frame.count, ?_, ?_⟩
    · rw [counts, List.getElem?_map, found, Option.map_some]
    · rw [counts, List.length_map]
      split at h
      next spent =>
        cases h
        rw [if_pos spent]
        rfl
      next more =>
        cases h
        rw [if_neg more]
        rfl

theorem counts_of_advance (h : s.advance = .ok t) : t.counts = s.counts := by
  rw [advance_eq h]
  rfl

/-- Two animations at the same place with the same counts go to the same place. -/
theorem advance_congr (h : s.advance = .ok t) (other : u.advance = .ok v)
    (position : u.position = s.position) (counts : u.counts = s.counts) :
    v.position = t.position := by
  obtain ⟨index, ticks⟩ := Prod.mk.inj position
  obtain ⟨count, found, result⟩ := position_of_advance h
  obtain ⟨again, same, result'⟩ := position_of_advance other
  rw [counts, index, found] at same
  cases same
  rw [result, result', counts, index, ticks]

/-- The animation of a showable screen goes on for ever, and leaves the counts alone. -/
theorem Showable.advances (h : s.Showable) (n : Nat) :
    ∃ t, s.advances n = .ok t ∧ t.Showable ∧ t.counts = s.counts := by
  induction n with
  | zero => exact ⟨s, rfl, h, rfl⟩
  | succ n ih =>
    obtain ⟨t, reached, showable, counts⟩ := ih
    obtain ⟨u, moved⟩ := showable.advance
    exact ⟨u, advances_succ reached moved, showable.reaches (.advance moved),
      (counts_of_advance moved).trans counts⟩

@[simp] theorem position_setPicture (s : Screen) (slot : Slot) (picture : Bitmap) :
    (s.setPicture slot picture).position = s.position := rfl

@[simp] theorem counts_setPicture (s : Screen) (slot : Slot) (picture : Bitmap) :
    (s.setPicture slot picture).counts = s.counts := by
  apply List.ext_getElem?
  intro i
  rw [counts, counts, List.getElem?_map, List.getElem?_map, setPicture, List.getElem?_modify]
  cases s.frames[i]? with
  | none => rfl
  | some frame =>
    by_cases here : s.place slot = i <;> simp [here]

end Screen

namespace Scene

theorem drawOr_animation (scene : Scene) (what : String) (f : Bitmap → Except Fault Bitmap) :
    (scene.drawOr what f).screen.position = scene.screen.position ∧
      (scene.drawOr what f).screen.counts = scene.screen.counts := by
  rw [drawOr]
  split
  next screen drawn =>
    obtain ⟨old, new, _, _, rfl⟩ := Screen.draw_eq_ok drawn
    exact ⟨scene.screen.position_setPicture .current new,
      scene.screen.counts_setPicture .current new⟩
  next fault failed => exact ⟨rfl, rfl⟩

/-- The padlock does not disturb the animation under it. -/
theorem padlock_animation (scene : Scene) (locked : Bool) (x y : Nat) :
    (scene.padlock locked x y).screen.position = scene.screen.position ∧
      (scene.padlock locked x y).screen.counts = scene.screen.counts := by
  rw [padlock]
  obtain ⟨position, counts⟩ := drawOr_animation
    { scene with screen := if locked then scene.screen.markLocked else scene.screen } "padlock"
    fun b => Drawing.padlock b (Padlock.rows locked
      (if locked then scene.screen.markLocked else scene.screen).everLocked) x y
  cases locked <;> exact ⟨position, counts⟩

end Scene

end LcdCompositor
