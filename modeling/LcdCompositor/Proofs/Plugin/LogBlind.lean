import LcdCompositor.Plugin.Builtin
import LcdCompositor.Plugin.Scripted
import LcdCompositor.Proofs.Font.History

/-!
# What the log has no say in

Screens write to the log and cannot read it. Two scenes that differ in nothing but the
log stay that way when a picture or a text is put on both, and a plugin that is set up
in both comes up in both or in neither. The built-in plugins are all like that, and so
is every scripted one.
-/

namespace LcdCompositor

/-- Two scenes that differ in nothing but the log. -/
structure Scene.Alike (s t : Scene) : Prop where
  screen : s.screen = t.screen
  studio : s.studio.Alike t.studio

/-- Two attempts that end with the same fault, or both with none, in scenes that differ
in nothing but the log. -/
structure Scene.SameOutcome (a b : Scene × Option Fault) : Prop where
  scene : a.1.Alike b.1
  fault : a.2 = b.2

namespace Scene.Alike

variable {s t : Scene}

/-- One screen in two studios. -/
theorem of_studio {one two : Studio} (screen : Screen) (h : one.Alike two) :
    Alike ⟨screen, one⟩ ⟨screen, two⟩ := ⟨rfl, h⟩

theorem warn (h : s.Alike t) (what : String) (fault : Fault) :
    (s.warn what fault).Alike (t.warn what fault) := ⟨h.screen, h.studio.files, h.studio.fonts⟩

theorem settle (h : s.Alike t) (result : Except Fault Screen) :
    SameOutcome (s.settle result) (t.settle result) := by
  cases result with
  | ok screen => exact ⟨⟨rfl, h.studio⟩, rfl⟩
  | error fault => exact ⟨h, rfl⟩

theorem addFile (h : s.Alike t) (path : String) (count : UInt16) :
    SameOutcome (s.addFile path count) (t.addFile path count) := by
  unfold Scene.addFile
  rw [h.studio.files, h.screen]
  split
  · exact h.settle _
  · exact ⟨h, rfl⟩

theorem write (h : s.Alike t) (slot : Slot) (font : Font) (text : String) (x y : Int) :
    (s.write slot font text x y).Alike (t.write slot font text x y) := by
  have asked := h.studio.sheet font
  unfold Scene.write
  generalize s.studio.sheet font = one at asked
  generalize t.studio.sheet font = two at asked
  obtain ⟨result, one⟩ := one
  obtain ⟨_, two⟩ := two
  obtain ⟨rfl, asked⟩ := asked
  rw [h.screen]
  cases result with
  | error fault => exact (of_studio _ asked).warn ..
  | ok sheet =>
    dsimp only
    split
    · exact (of_studio _ asked).warn ..
    · split
      · exact of_studio _ asked
      · exact (of_studio _ asked).warn ..

end Scene.Alike

variable {σ : Type}

/-- Setting up does not depend on the log. -/
def Behaviour.LogBlind (b : Behaviour σ) : Prop :=
  ∀ setting {s t : Scene}, s.Alike t →
    Scene.SameOutcome (b.setUp setting s) (b.setUp setting t)

section Builtin

theorem Splash.brand_alike (productName : String) {s t : Scene} (h : s.Alike t) :
    (Splash.brand productName s).Alike (Splash.brand productName t) := by
  have written := h.write .last .mono5x8 productName (-1) productRow
  obtain ⟨answer, asked⟩ := written.studio.sheet .mono5x8
  unfold Splash.brand
  dsimp only
  rw [answer, written.screen]
  exact (Scene.Alike.of_studio _ asked).write ..

theorem Splash.setUp_alike (setting : Setting) {s t : Scene} (h : s.Alike t) :
    Scene.SameOutcome (Splash.setUp setting s) (Splash.setUp setting t) := by
  have loaded := h.addFile (FileTree.join setting.dataDirectory Panel.splashFile) logoTicks
  unfold Splash.setUp
  generalize s.addFile _ _ = one at loaded
  generalize t.addFile _ _ = two at loaded
  obtain ⟨⟨screen, one⟩, fault⟩ := one
  obtain ⟨⟨_, two⟩, _⟩ := two
  obtain ⟨⟨rfl, loaded⟩, rfl⟩ := loaded
  cases fault with
  | some fault => exact ⟨.of_studio _ loaded, rfl⟩
  | none =>
    dsimp only
    split
    · exact ⟨.of_studio _ loaded, rfl⟩
    · split
      · exact ⟨.of_studio _ loaded, rfl⟩
      · exact ⟨brand_alike _ (.of_studio _ loaded), rfl⟩

theorem EndCard.setUp_alike (setting : Setting) {s t : Scene} (h : s.Alike t) :
    Scene.SameOutcome (EndCard.setUp setting s) (EndCard.setUp setting t) := by
  unfold EndCard.setUp
  rw [h.screen]
  split
  · exact ⟨h, rfl⟩
  · split
    · exact ⟨.of_studio _ h.studio, rfl⟩
    · exact ⟨((Scene.Alike.of_studio _ h.studio).write ..).write .., rfl⟩

/-- No built-in plugin looks at the log when it is set up. -/
theorem builtinPlugins_logBlind (feed : SensorFeed) :
    ∀ p ∈ builtinPlugins feed, p.behaviour.LogBlind := by
  intro p member
  simp only [builtinPlugins, List.mem_cons, List.not_mem_nil, or_false] at member
  rcases member with rfl | rfl | rfl
  · exact Splash.setUp_alike
  · intro setting s t h
    change Scene.SameOutcome (s.settle (s.screen.addBlank 0)) (t.settle (t.screen.addBlank 0))
    rw [h.screen]
    exact h.settle _
  · exact EndCard.setUp_alike

end Builtin

namespace Script

theorem build_alike {s t : Scene} (h : s.Alike t)
    (frames : List (Except Fault Bitmap × UInt16)) :
    Scene.SameOutcome (build s frames) (build t frames) := by
  induction frames generalizing s t with
  | nil => exact ⟨h, rfl⟩
  | cons frame rest ih =>
    obtain ⟨picture, count⟩ := frame
    cases picture with
    | error fault => exact ⟨h, rfl⟩
    | ok picture =>
      unfold build
      rw [h.screen]
      split
      · exact ⟨h, rfl⟩
      · exact ih (.of_studio _ h.studio)

/-- Nor does a scripted one. -/
theorem plugin_logBlind (script : Script) (identity : Identity) (tempo : Tempo) :
    (script.plugin identity tempo).behaviour.LogBlind := by
  intro setting s t h
  change Scene.SameOutcome (script.setUp setting s) (script.setUp setting t)
  unfold setUp
  split
  · exact ⟨h, rfl⟩
  · exact build_alike h script.frames

end Script

end LcdCompositor
