import LcdCompositor.Scene
import Mathlib.Logic.Relation

/-!
# What operations leave of a screen

A plugin may do anything to its screen that an `Action` does, in whatever studio,
and it may rewrite the bytes of a frame. `Reaches` is any number of such operations.

Every operation is made of a few elementary changes: frames are only ever appended,
a frame keeps its size, and the position of the animation moves by its own rules.
Identity and tempo never change. An invariant is therefore proved once for each
`Change`, and `Reaches.invariant` carries it over all operations.
-/

namespace LcdCompositor

instance : Inhabited Studio := ⟨⟨FileTree.empty, FontCache.empty "", []⟩⟩

namespace Screen

/-- One operation on a screen, in whatever studio it is done, or a rewriting of the
bytes of a frame. -/
inductive Step (s : Screen) : Screen → Prop
  | act (studio : Studio) (action : Action) :
      Step s (Scene.perform ⟨s, studio⟩ action).1.screen
  | rewrite (slot : Slot) {old new : Bitmap} (found : s.picture slot = .ok old)
      (size : new.size = old.size) : Step s (s.setPicture slot new)

/-- Any number of operations, one after the other. -/
def Reaches : Screen → Screen → Prop := Relation.ReflTransGen Step

/-- One elementary change of a screen. -/
inductive Change (s : Screen) : Screen → Prop
  | append (frame : Frame) (size : frame.picture.size = Panel.size) :
      Change s { s with frames := s.frames ++ [frame] }
  | complete (frames : s.frames ≠ []) : Change s { s.resetAnimation with ready := true }
  | animate {t : Screen} (moved : s.advance = .ok t) : Change s t
  | rewind : Change s s.resetAnimation
  | remember (locked : Bool) : Change s { s with everLocked := locked }
  | repaint (slot : Slot) {old new : Bitmap} (found : s.picture slot = .ok old)
      (size : new.size = old.size) : Change s (s.setPicture slot new)

/-- Any number of elementary changes. -/
def Changes : Screen → Screen → Prop := Relation.ReflTransGen Change

theorem Change.changes {s t : Screen} (h : Change s t) : Changes s t :=
  Relation.ReflTransGen.single h

theorem Changes.refl (s : Screen) : Changes s s := Relation.ReflTransGen.refl

theorem Changes.trans {s t u : Screen} (first : Changes s t) (second : Changes t u) :
    Changes s u := Relation.ReflTransGen.trans first second

theorem Changes.invariant {P : Screen → Prop} {s t : Screen}
    (preserved : ∀ {s t}, Change s t → P s → P t) (h : Changes s t) (hs : P s) : P t := by
  induction h with
  | refl => exact hs
  | tail _ change ih => exact preserved change ih

section Operations

variable {s t : Screen}

theorem addFrame_changes {picture : Bitmap} {count : UInt16}
    (h : s.addFrame picture count = .ok t) : Changes s t := by
  unfold addFrame at h
  split at h
  · cases h
  next size =>
    cases h
    exact (Change.append ⟨picture, count⟩ (Decidable.not_not.mp size)).changes

theorem addFrame_of_size (s : Screen) {picture : Bitmap} (count : UInt16)
    (size : picture.size = Panel.size) :
    s.addFrame picture count = .ok { s with frames := s.frames ++ [⟨picture, count⟩] } :=
  if_neg (Decidable.not_not.mpr size)

/-- The frame that was appended last is the one behind all others. -/
theorem picture_last_append (s : Screen) (frame : Frame) :
    { s with frames := s.frames ++ [frame] }.picture .last = .ok frame.picture := by
  simp [picture, place]

theorem finish_changes (h : s.finish = .ok t) : Changes s t := by
  unfold finish at h
  split at h
  · cases h
  next frames =>
    cases h
    exact (Change.complete frames).changes

/-- Drawing puts the result into the slot and does nothing else. -/
theorem draw_eq_ok {slot : Slot} {f : Bitmap → Except Fault Bitmap}
    (h : s.draw slot f = .ok t) :
    ∃ old new, s.picture slot = .ok old ∧ f old = .ok new ∧ t = s.setPicture slot new := by
  unfold draw at h
  cases found : s.picture slot with
  | error fault => simp [found, bind, Except.bind] at h
  | ok old =>
    cases drawn : f old with
    | error fault => simp [found, drawn, bind, Except.bind] at h
    | ok new =>
      simp only [found, drawn, bind, Except.bind, pure, Except.pure, Except.ok.injEq] at h
      exact ⟨old, new, rfl, drawn, h.symm⟩

theorem draw_of_ok {slot : Slot} {f : Bitmap → Except Fault Bitmap} {old new : Bitmap}
    (found : s.picture slot = .ok old) (drawn : f old = .ok new) :
    s.draw slot f = .ok (s.setPicture slot new) := by
  simp [draw, found, drawn, bind, Except.bind, pure, Except.pure]

theorem draw_of_error {slot : Slot} {f : Bitmap → Except Fault Bitmap} {old : Bitmap}
    {fault : Fault} (found : s.picture slot = .ok old) (failed : f old = .error fault) :
    s.draw slot f = .error fault := by
  simp [draw, found, failed, bind, Except.bind]

theorem draw_changes {slot : Slot} {f : Bitmap → Except Fault Bitmap}
    (keeps : ∀ {b drawn}, f b = .ok drawn → drawn.size = b.size)
    (h : s.draw slot f = .ok t) : Changes s t := by
  obtain ⟨old, new, found, drawn, rfl⟩ := draw_eq_ok h
  exact (Change.repaint slot found (keeps drawn)).changes

theorem clear_changes (s : Screen) : Changes s s.clear := by
  unfold clear
  split
  next old found => exact (Change.repaint .current found (Bitmap.size_clear old)).changes
  · exact .refl s

/-- A settled operation changes the screen by its result, or not at all. -/
theorem settle_changes {scene : Scene} {result : Except Fault Screen}
    (h : ∀ {t}, result = .ok t → Changes scene.screen t) :
    Changes scene.screen (scene.settle result).1.screen := by
  cases result with
  | error fault => exact .refl scene.screen
  | ok t => exact h rfl

theorem drawOr_changes (scene : Scene) {what : String} {f : Bitmap → Except Fault Bitmap}
    (keeps : ∀ {b drawn}, f b = .ok drawn → drawn.size = b.size) :
    Changes scene.screen (scene.drawOr what f).screen := by
  unfold Scene.drawOr
  split
  next t drawn => exact draw_changes keeps drawn
  · exact .refl scene.screen

/-- A shape that cannot be drawn on the picture on show leaves the screen as it is. -/
theorem screen_drawOr_of_error {scene : Scene} {f : Bitmap → Except Fault Bitmap} {old : Bitmap}
    {fault : Fault} (what : String) (shown : scene.screen.picture .current = .ok old)
    (failed : f old = .error fault) : (scene.drawOr what f).screen = scene.screen := by
  rw [Scene.drawOr, draw_of_error shown failed]
  rfl

theorem bar_changes (scene : Scene) (percent x y : Nat) :
    Changes scene.screen (scene.bar percent x y).screen :=
  drawOr_changes scene Drawing.size_of_progressBar

/-- A closed padlock is remembered before it is drawn. -/
theorem padlock_changes (scene : Scene) (locked : Bool) (x y : Nat) :
    Changes scene.screen (scene.padlock locked x y).screen := by
  have marked : Changes scene.screen
      (if locked then scene.screen.markLocked else scene.screen) := by
    cases locked with
    | false => exact .refl scene.screen
    | true => exact (Change.remember true).changes
  refine marked.trans ?_
  unfold Scene.padlock
  exact drawOr_changes { scene with screen := _ } Drawing.size_of_padlock

theorem line_changes (scene : Scene) (x y size : Nat) :
    Changes scene.screen (scene.line x y size).screen :=
  drawOr_changes scene Drawing.size_of_verticalLine

/-- A text repaints its slot, cut short or not; without sheet or frame nothing changes. -/
theorem write_changes (scene : Scene) (slot : Slot) (font : Font) (text : String)
    (x y : Int) : Changes scene.screen (scene.write slot font text x y).screen := by
  unfold Scene.write
  split
  · exact .refl scene.screen
  next sheet studio _ =>
    dsimp only
    split
    · exact .refl scene.screen
    next picture found =>
      have size := Drawing.size_text sheet picture text x y
      split
      next drawn result =>
        rw [result] at size
        exact (Change.repaint slot found size).changes
      next drawn fault result =>
        rw [result] at size
        exact (Change.repaint slot found size).changes

theorem addFile_changes (scene : Scene) (path : String) (count : UInt16) :
    Changes scene.screen (scene.addFile path count).1.screen := by
  unfold Scene.addFile
  split
  · exact settle_changes addFrame_changes
  · exact .refl scene.screen

/-- Whatever is done to a screen is made of elementary changes. -/
theorem perform_changes (scene : Scene) (action : Action) :
    Changes scene.screen (scene.perform action).1.screen := by
  cases action with
  | addFrame picture count => exact settle_changes addFrame_changes
  | addBlank count => exact settle_changes addFrame_changes
  | addFile path count => exact addFile_changes scene path count
  | finish => exact settle_changes finish_changes
  | advance => exact settle_changes fun moved => (Change.animate moved).changes
  | resetAnimation => exact Change.rewind.changes
  | clearLockHistory => exact (Change.remember false).changes
  | markLocked => exact (Change.remember true).changes
  | clear => exact clear_changes scene.screen
  | fill byte =>
    exact settle_changes (draw_changes fun h => by cases h; exact Bitmap.size_fill ..)
  | setByte slot index byte =>
    exact settle_changes (draw_changes fun h => by cases h; exact Bitmap.size_modifyByte ..)
  | bar percent x y => exact bar_changes scene percent x y
  | padlock locked x y => exact padlock_changes scene locked x y
  | line x y size => exact line_changes scene x y size
  | write slot font text x y => exact write_changes scene slot font text x y

end Operations

namespace Reaches

variable {s t u : Screen}

theorem refl (s : Screen) : s.Reaches s := Relation.ReflTransGen.refl

theorem trans (first : s.Reaches t) (second : t.Reaches u) : s.Reaches u :=
  Relation.ReflTransGen.trans first second

theorem act (studio : Studio) (action : Action) :
    s.Reaches (Scene.perform ⟨s, studio⟩ action).1.screen :=
  Relation.ReflTransGen.single (.act studio action)

/-- Several operations, each in the studio that the one before it leaves. -/
theorem performAll (scene : Scene) (actions : List Action) :
    scene.screen.Reaches (scene.performAll actions).screen := by
  rw [Scene.performAll]
  induction actions generalizing scene with
  | nil => exact .refl scene.screen
  | cons action rest ih => exact (act scene.studio action).trans (ih _)

theorem resetAnimation (s : Screen) : s.Reaches s.resetAnimation :=
  act default .resetAnimation

theorem clearLockHistory (s : Screen) : s.Reaches s.clearLockHistory :=
  act default .clearLockHistory

theorem markLocked (s : Screen) : s.Reaches s.markLocked := act default .markLocked

theorem advance (h : s.advance = .ok t) : s.Reaches t := by
  have step := act (s := s) default .advance
  rwa [Scene.perform, h] at step

theorem changes (h : s.Reaches t) : Changes s t := by
  induction h with
  | refl => exact .refl s
  | tail _ step ih =>
    cases step with
    | act studio action => exact ih.trans (perform_changes ⟨_, studio⟩ action)
    | rewrite slot found size => exact ih.trans (Change.repaint slot found size).changes

/-- What every elementary change preserves, any number of operations preserves. -/
theorem invariant {P : Screen → Prop} (preserved : ∀ {s t}, Change s t → P s → P t)
    (h : s.Reaches t) (hs : P s) : P t :=
  h.changes.invariant preserved hs

end Reaches

/-- The animation leaves everything but its position alone. -/
theorem advance_eq {s t : Screen} (h : s.advance = .ok t) :
    t = { s with index := t.index, ticks := t.ticks } := by
  unfold advance at h
  split at h
  · cases h
  · split at h <;> cases h <;> rfl

/-- The frame on show after a step of the animation is one of the list. -/
theorem advance_inside {s t : Screen} (h : s.advance = .ok t) : t.index < s.frames.length := by
  unfold advance at h
  split at h
  · cases h
  next frame found =>
    obtain ⟨inside, _⟩ := List.getElem?_eq_some_iff.mp found
    split at h
    · cases h
      exact Nat.mod_lt _ (by omega)
    · cases h
      exact inside

/-- The animation goes on as long as a frame is on show. -/
theorem exists_advance {s : Screen} (inside : s.index < s.frames.length) :
    ∃ t, s.advance = .ok t := by
  unfold advance
  rw [List.getElem?_eq_getElem inside]
  dsimp only
  split <;> exact ⟨_, rfl⟩

@[simp] theorem length_setPicture (s : Screen) (slot : Slot) (picture : Bitmap) :
    (s.setPicture slot picture).frames.length = s.frames.length :=
  List.length_modify ..

@[simp] theorem place_setPicture (s : Screen) (slot other : Slot) (picture : Bitmap) :
    (s.setPicture slot picture).place other = s.place other := by
  cases other with
  | current => rfl
  | last => rw [place, length_setPicture, place]

/-- A slot shows what has been put into it. -/
theorem picture_setPicture {s : Screen} {slot : Slot} {old : Bitmap} (new : Bitmap)
    (found : s.picture slot = .ok old) : (s.setPicture slot new).picture slot = .ok new := by
  rw [Screen.picture] at found ⊢
  rw [place_setPicture, setPicture, List.getElem?_modify]
  split at found
  next frame here =>
    rw [here]
    simp
  · cases found

/-- A picture put where it is already changes nothing. -/
theorem setPicture_self {s : Screen} {slot : Slot} {old : Bitmap}
    (found : s.picture slot = .ok old) : s.setPicture slot old = s := by
  have frames : s.frames.modify (s.place slot) (fun frame => { frame with picture := old }) =
      s.frames := by
    apply List.ext_getElem?
    intro i
    rw [List.getElem?_modify]
    by_cases here : s.place slot = i
    · subst here
      rw [picture] at found
      split at found
      next frame shown =>
        cases found
        simp [shown]
      · cases found
    · simp [here]
  rw [setPicture, frames]

/-- The frame that was appended last gets another picture. -/
theorem setPicture_last_append (s : Screen) (first second : Bitmap) (count : UInt16) :
    setPicture { s with frames := s.frames ++ [Frame.mk first count] } .last second =
      { s with frames := s.frames ++ [Frame.mk second count] } := by
  have last : (s.frames ++ [Frame.mk first count]).length - 1 = s.frames.length := by simp
  rw [setPicture, place]
  dsimp only
  rw [last, List.modify_eq_take_drop, List.take_left, List.drop_left]
  rfl

theorem Change.identity {s t : Screen} (h : Change s t) : t.identity = s.identity := by
  cases h with
  | animate moved => rw [advance_eq moved]
  | _ => rfl

theorem Change.tempo {s t : Screen} (h : Change s t) : t.tempo = s.tempo := by
  cases h with
  | animate moved => rw [advance_eq moved]
  | _ => rfl

/-- Who a screen is never changes. -/
theorem Reaches.identity {s t : Screen} (h : s.Reaches t) : t.identity = s.identity :=
  h.invariant (P := fun u => u.identity = s.identity)
    (fun change same => change.identity.trans same) rfl

/-- How long a screen stays up never changes. -/
theorem Reaches.tempo {s t : Screen} (h : s.Reaches t) : t.tempo = s.tempo :=
  h.invariant (P := fun u => u.tempo = s.tempo) (fun change same => change.tempo.trans same) rfl

/-- Every frame has the size of the panel, and the frame on show is on the list as soon
as there is one. -/
structure Sound (s : Screen) : Prop where
  size : ∀ frame ∈ s.frames, frame.picture.size = Panel.size
  inside : s.index = 0 ∨ s.index < s.frames.length

theorem sound_new (identity : Identity) (tempo : Tempo) : (new identity tempo).Sound :=
  ⟨fun _ member => absurd member List.not_mem_nil, .inl rfl⟩

/-- The picture in a slot is that of a frame. -/
theorem exists_frame_of_picture {s : Screen} {slot : Slot} {picture : Bitmap}
    (found : s.picture slot = .ok picture) : ∃ frame ∈ s.frames, frame.picture = picture := by
  unfold Screen.picture at found
  split at found
  next frame place =>
    cases found
    exact ⟨frame, List.mem_of_getElem? place, rfl⟩
  · cases found

theorem size_of_picture {s : Screen} {slot : Slot} {picture : Bitmap} (sound : s.Sound)
    (found : s.picture slot = .ok picture) : picture.size = Panel.size := by
  obtain ⟨frame, member, rfl⟩ := exists_frame_of_picture found
  exact sound.size frame member

theorem size_setPicture {s : Screen} {slot : Slot} {picture : Bitmap} (sound : s.Sound)
    (size : picture.size = Panel.size) :
    ∀ frame ∈ (s.setPicture slot picture).frames, frame.picture.size = Panel.size := by
  intro frame member
  obtain ⟨i, place⟩ := List.mem_iff_getElem?.mp member
  rw [setPicture, List.getElem?_modify] at place
  cases found : s.frames[i]? with
  | none => simp [found] at place
  | some old =>
    rw [found, Option.map_eq_map, Option.map_some, Option.some.injEq] at place
    subst place
    split
    · exact size
    · exact sound.size old (List.mem_of_getElem? found)

theorem Change.sound {s t : Screen} (h : Change s t) (sound : s.Sound) : t.Sound := by
  cases h with
  | append frame size =>
    refine ⟨?_, ?_⟩
    · intro other member
      rcases List.mem_append.mp member with old | new
      · exact sound.size other old
      · exact List.mem_singleton.mp new ▸ size
    · have inside := sound.inside
      simp only [List.length_append, List.length_singleton]
      omega
  | complete _ => exact ⟨sound.size, .inl rfl⟩
  | rewind => exact ⟨sound.size, .inl rfl⟩
  | remember locked => exact ⟨sound.size, sound.inside⟩
  | animate moved =>
    have inside := advance_inside moved
    rw [advance_eq moved]
    exact ⟨sound.size, .inr inside⟩
  | repaint slot found size =>
    refine ⟨size_setPicture sound (size.trans (size_of_picture sound found)), ?_⟩
    rw [length_setPicture]
    exact sound.inside

/-- Frames are never taken away. -/
theorem Change.frames_ne_nil {s t : Screen} (h : Change s t) (frames : s.frames ≠ []) :
    t.frames ≠ [] := by
  cases h with
  | append frame size => simp
  | animate moved => rw [advance_eq moved]; exact frames
  | repaint slot found size =>
    intro empty
    have length := length_setPicture s slot _ ▸ congrArg List.length empty
    exact frames (List.length_eq_zero_iff.mp length)
  | _ => exact frames

theorem Reaches.frames_ne_nil {s t : Screen} (h : s.Reaches t) (frames : s.frames ≠ []) :
    t.frames ≠ [] := h.invariant Change.frames_ne_nil frames

/-- A screen whose building has been finished: it is sound and has a frame to show. -/
structure Showable (s : Screen) : Prop where
  sound : s.Sound
  frames : s.frames ≠ []

namespace Showable

variable {s t : Screen}

theorem inside (h : s.Showable) : s.index < s.frames.length := by
  have := List.length_pos_iff.mpr h.frames
  rcases h.sound.inside with first | inside
  · omega
  · exact inside

theorem change (h : s.Showable) (change : Change s t) : t.Showable :=
  ⟨change.sound h.sound, change.frames_ne_nil h.frames⟩

theorem reaches (h : s.Showable) (reached : s.Reaches t) : t.Showable :=
  reached.invariant (fun change showable => showable.change change) h

/-- The animation of a showable screen can always go on. -/
theorem advance (h : s.Showable) : ∃ t, s.advance = .ok t := exists_advance h.inside

/-- A showable screen has a frame on show, and it has the size of the panel. -/
theorem picture (h : s.Showable) :
    ∃ b, s.picture .current = .ok b ∧ b.size = Panel.size := by
  have inside := h.inside
  have found : s.picture .current = .ok s.frames[s.index].picture := by
    unfold Screen.picture place
    rw [List.getElem?_eq_getElem inside]
  exact ⟨_, found, size_of_picture h.sound found⟩

end Showable

/-- The building of frames ends well for a sound screen that has one. -/
theorem showable_of_finish {s t : Screen} (sound : s.Sound) (h : s.finish = .ok t) :
    t.Showable := by
  unfold finish at h
  split at h
  · cases h
  next frames =>
    cases h
    exact ⟨(Change.complete frames).sound sound, frames⟩

end Screen

end LcdCompositor
