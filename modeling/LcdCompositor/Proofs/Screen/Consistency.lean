import LcdCompositor.Proofs.Bitmap.Pixel
import LcdCompositor.Proofs.Screen.Animation

/-!
# The state of a screen at any time

Frames may be appended in the middle of an animation, drawing may fail half way, and the
building of frames may be ended again and again. Whatever is done to a screen, in whatever
order, its frames have the size of the panel, the frame on show is one of them, and it has not
been on show for longer than its count; a screen without frames is at the very start and not
ready. So the place of the next frame and the number of ticks can always be computed.

An operation that reports a fault has not changed the screen.
-/

namespace LcdCompositor

namespace Screen

variable {s t : Screen}

/-- What holds of a screen at any time. -/
structure Consistent (s : Screen) : Prop extends Sound s where
  bare : s.frames = [] → s.position = (0, 0) ∧ s.ready = false
  timely : ∀ count, s.counts[s.index]? = some count → s.ticks ≤ count.toNat

theorem consistent_new (identity : Identity) (tempo : Tempo) : (new identity tempo).Consistent where
  toSound := sound_new identity tempo
  bare _ := ⟨rfl, rfl⟩
  timely _ _ := Nat.zero_le _

theorem Consistent.inside_of_ne (h : s.Consistent) (frames : s.frames ≠ []) :
    s.index < s.frames.length :=
  Showable.inside ⟨h.toSound, frames⟩

/-- A step of the animation begins a frame, or it adds a tick where one is missing. -/
theorem timely_of_advance (moved : s.advance = .ok t) :
    ∀ count, t.counts[t.index]? = some count → t.ticks ≤ count.toNat := by
  intro count found
  obtain ⟨shown, here, result⟩ := position_of_advance moved
  rw [counts_of_advance moved] at found
  split at result
  next spent =>
    obtain ⟨-, ticks⟩ := Prod.mk.inj result
    rw [ticks]
    exact Nat.zero_le _
  next more =>
    obtain ⟨index, ticks⟩ := Prod.mk.inj result
    rw [index, here] at found
    cases found
    rw [ticks]
    omega

theorem Change.consistent (change : Change s t) (h : s.Consistent) : t.Consistent := by
  have sound : t.Sound := change.sound h.toSound
  cases change with
  | append frame size =>
    refine ⟨sound, fun none => ?_, fun count found => ?_⟩
    · simp at none
    · by_cases frames : s.frames = []
      · obtain ⟨-, ticks⟩ := Prod.mk.inj (h.bare frames).1
        change s.ticks ≤ count.toNat
        rw [ticks]
        exact Nat.zero_le _
      · -- The new frame is behind the one on show.
        have inside : s.index < s.counts.length := s.length_counts ▸ h.inside_of_ne frames
        rw [counts, List.map_append] at found
        change (s.counts ++ [frame.count])[s.index]? = some count at found
        rw [List.getElem?_append_left inside] at found
        exact h.timely count found
  | complete frames => exact ⟨sound, fun none => absurd none frames, fun _ _ => Nat.zero_le _⟩
  | rewind => exact ⟨sound, fun none => ⟨rfl, (h.bare none).2⟩, fun _ _ => Nat.zero_le _⟩
  | remember locked => exact ⟨sound, h.bare, h.timely⟩
  | animate moved =>
    refine ⟨sound, fun none => ?_, timely_of_advance moved⟩
    have inside := advance_inside moved
    rw [advance_eq moved] at none
    rw [none] at inside
    exact absurd inside (Nat.not_lt_zero _)
  | repaint slot found size =>
    refine ⟨sound, fun none => h.bare ?_, fun count found => h.timely count ?_⟩
    · rw [← List.length_eq_zero_iff, ← length_setPicture s slot, none]
      rfl
    · rwa [counts_setPicture] at found

/-- Whatever is done to a consistent screen leaves it consistent. -/
theorem Reaches.consistent (reached : s.Reaches t) (h : s.Consistent) : t.Consistent :=
  reached.invariant Change.consistent h

end Screen

namespace Scene

variable {scene : Scene} {fault : Fault}

theorem screen_settle_of_fault {result : Except Fault Screen}
    (failed : (scene.settle result).2 = some fault) :
    (scene.settle result).1.screen = scene.screen := by
  cases result with
  | ok screen => cases failed
  | error cause => rfl

theorem screen_addFile_of_fault {path : String} {count : UInt16}
    (failed : (scene.addFile path count).2 = some fault) :
    (scene.addFile path count).1.screen = scene.screen := by
  unfold addFile at failed ⊢
  cases loaded : loadBitmap scene.studio.files path Panel.size with
  | error cause => rfl
  | ok picture =>
    rw [loaded] at failed
    exact screen_settle_of_fault failed

/-- An operation that reports a fault leaves the screen as it was. -/
theorem screen_perform_of_fault {action : Action}
    (failed : (scene.perform action).2 = some fault) :
    (scene.perform action).1.screen = scene.screen := by
  cases action with
  | addFrame | addBlank | finish | advance | resetAnimation | clearLockHistory | markLocked
  | fill | setByte => exact screen_settle_of_fault failed
  | addFile => exact screen_addFile_of_fault failed
  | clear | bar | padlock | line | write => cases failed

end Scene

namespace Screen

/-- Of a screen that is new, whatever has been done to it since: its frames have the size of
the panel; without frames it stands at the start and is not ready; with frames the one on show
is among them, and has been on show for no longer than its count, so that a further tick still
fits in sixteen bits; and what fails leaves it as it is. -/
theorem consistent_of_reaches (identity : Identity) (tempo : Tempo) {s : Screen}
    (reached : (new identity tempo).Reaches s) :
    (∀ frame ∈ s.frames, frame.picture.width = 160 ∧ frame.picture.height = 48 ∧
      frame.picture.bytes.size = 960) ∧
    (s.frames = [] → s.index = 0 ∧ s.ticks = 0 ∧ s.ready = false) ∧
    (s.frames ≠ [] → s.index < s.frames.length) ∧
    (∀ frame, s.frames[s.index]? = some frame → s.ticks ≤ frame.count.toNat) ∧
    (∀ t, s.advance = .ok t → t.ticks < 2 ^ 16) ∧
    (∀ (studio : Studio) (action : Action) (fault : Fault),
      (Scene.perform ⟨s, studio⟩ action).2 = some fault →
        (Scene.perform ⟨s, studio⟩ action).1.screen = s) := by
  have consistent : s.Consistent := reached.consistent (consistent_new identity tempo)
  refine ⟨?sized, ?bare, consistent.inside_of_ne, ?timely, ?short, ?kept⟩
  case sized =>
    intro frame member
    have size := consistent.size frame member
    have bytes : frame.picture.bytes.size = Panel.size.packedLength := by
      rw [frame.picture.bytes_size, size]
    exact ⟨Bitmap.width_of_panel size, Bitmap.height_of_panel size, bytes⟩
  case bare =>
    intro none
    obtain ⟨position, ready⟩ := consistent.bare none
    obtain ⟨index, ticks⟩ := Prod.mk.inj position
    exact ⟨index, ticks, ready⟩
  case timely =>
    intro frame found
    apply consistent.timely
    rw [counts, List.getElem?_map, found]
    rfl
  case short =>
    intro t moved
    have inside : t.index < t.counts.length := by
      rw [counts_of_advance moved, length_counts]
      exact advance_inside moved
    have shown := timely_of_advance moved _ (List.getElem?_eq_getElem inside)
    exact Nat.lt_of_le_of_lt shown (UInt16.toNat_lt _)
  case kept =>
    intro studio action fault failed
    exact Scene.screen_perform_of_fault failed

/-- A screen that gets its second frame while the first one is in its last tick, after a bar
that could not be drawn. A frame of eight by eight pixels is then refused. -/
theorem consistent_of_reaches_growing :
    let blank := new ⟨1, "demo", ""⟩ .normal
    let s := (Scene.performAll ⟨blank, default⟩
      [.addBlank 1, .finish, .advance, .bar 50 100 0, .addBlank 0]).screen
    let small := Bitmap.dark ⟨8, 8⟩ (by decide)
    blank.Reaches s ∧ s.frames.length = 2 ∧ s.ticks = 1 ∧ s.index < 2 ∧
      (∀ frame ∈ s.frames, frame.picture.bytes.size = 960) ∧
      (∀ frame, s.frames[s.index]? = some frame → 1 ≤ frame.count.toNat) ∧
      (Scene.perform ⟨s, default⟩ (.addFrame small 3)).1.screen = s := by
  intro blank s small
  have reached : blank.Reaches s := .performAll ⟨blank, default⟩ _
  have two : s.frames.length = 2 := by decide +kernel
  have once : s.ticks = 1 := by decide +kernel
  have some : s.frames ≠ [] := List.ne_nil_of_length_pos (by rw [two]; decide)
  obtain ⟨sized, -, inside, timely, -, kept⟩ := consistent_of_reaches _ _ reached
  refine ⟨reached, two, once, two ▸ inside some, ?_, fun frame found => once ▸ timely frame found,
    kept default (.addFrame small 3) (.format (.frameSize small.size)) rfl⟩
  intro frame member
  exact (sized frame member).2.2

end Screen

end LcdCompositor
