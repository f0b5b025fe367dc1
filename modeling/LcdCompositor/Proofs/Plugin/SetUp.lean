import LcdCompositor.Proofs.Netpbm.Grammar
import LcdCompositor.Proofs.Plugin.LogBlind
import LcdCompositor.Proofs.Plugin.Orderly
import LcdCompositor.Proofs.Plugin.ReadOnly

/-!
# What becomes of a plugin that is set up

A plugin is kept if it reports no fault and has a frame, and then its animation stands
at its start. In any case it leaves a studio behind, for the plugins that come after it.
Of the built-in plugins the monitor and the end card are always kept, since a text that
cannot be written costs nothing but the text. The splash screen needs its bitmap.
-/

namespace LcdCompositor

variable {σ : Type}

namespace Plugin

/-- A plugin as it is kept, if it is. -/
def kept (p : Plugin σ) (setting : Setting) (studio : Studio) : Option (Plugin σ) :=
  let (scene, fault) := p.behaviour.setUp setting ⟨p.screen, studio⟩
  if fault = none ∧ scene.screen.frames ≠ [] then
    some { p with screen := { scene.screen with index := 0, ticks := 0, ready := true } }
  else none

/-- The studio that a plugin leaves behind, whether or not it is kept. -/
def leaves (p : Plugin σ) (setting : Setting) (studio : Studio) : Studio :=
  (p.behaviour.setUp setting ⟨p.screen, studio⟩).1.studio

variable {p q : Plugin σ} {setting : Setting} {studio other : Studio}

theorem kept_eq_some_iff :
    p.kept setting studio = some q ↔
      ∃ screen, p.behaviour.setUp setting ⟨p.screen, studio⟩ =
          (⟨screen, p.leaves setting studio⟩, none) ∧ screen.frames ≠ [] ∧
        q = { p with screen := { screen with index := 0, ticks := 0, ready := true } } := by
  unfold kept leaves
  generalize p.behaviour.setUp setting ⟨p.screen, studio⟩ = outcome
  obtain ⟨⟨screen, after⟩, fault⟩ := outcome
  dsimp only
  constructor
  · intro h
    split at h
    next built =>
      cases h
      obtain ⟨rfl, frames⟩ := built
      exact ⟨screen, rfl, frames, rfl⟩
    · cases h
  · rintro ⟨_, same, frames, rfl⟩
    cases same
    exact if_pos ⟨rfl, frames⟩

theorem exists_kept (done : (p.behaviour.setUp setting ⟨p.screen, studio⟩).2 = none)
    (frames : (p.behaviour.setUp setting ⟨p.screen, studio⟩).1.screen.frames ≠ []) :
    ∃ q, p.kept setting studio = some q := ⟨_, if_pos ⟨done, frames⟩⟩

/-- A plugin that reports a fault is discarded, and leaves the studio in which it did. -/
theorem discarded_of_fault {scene : Scene} {fault : Fault}
    (failed : p.behaviour.setUp setting ⟨p.screen, studio⟩ = (scene, some fault)) :
    p.kept setting studio = none ∧ p.leaves setting studio = scene.studio := by
  rw [kept, leaves, failed]
  exact ⟨if_neg fun built => Option.some_ne_none fault built.1, rfl⟩

theorem setUp_of_kept (h : p.kept setting studio = some q) :
    p.setUp setting studio = (q, p.leaves setting studio, none) := by
  obtain ⟨screen, built, frames, rfl⟩ := kept_eq_some_iff.mp h
  unfold setUp
  rw [built]
  dsimp only
  rw [Screen.finish, if_neg frames]
  rfl

theorem setUp_of_discarded (h : p.kept setting studio = none) :
    ∃ r fault, p.setUp setting studio = (r, p.leaves setting studio, some fault) := by
  unfold kept at h
  unfold setUp leaves
  generalize p.behaviour.setUp setting ⟨p.screen, studio⟩ = outcome at h
  obtain ⟨scene, fault⟩ := outcome
  cases fault with
  | some fault => exact ⟨_, fault, rfl⟩
  | none =>
    dsimp only at h ⊢
    split at h
    · cases h
    next unbuilt =>
      have empty : scene.screen.frames = [] := by simpa using unbuilt
      rw [Screen.finish, if_pos empty]
      exact ⟨_, _, rfl⟩

/-- Who a plugin is does not change when it is set up. -/
theorem kind_of_kept (orderly : p.behaviour.Orderly) (h : p.kept setting studio = some q) :
    q.kind = p.kind := by
  obtain ⟨screen, built, -, rfl⟩ := kept_eq_some_iff.mp h
  have reaches := orderly.setUp setting ⟨p.screen, studio⟩
  rw [built] at reaches
  unfold kind
  rw [← reaches.identity, ← reaches.tempo]

section LogBlind

variable (blind : p.behaviour.LogBlind) (alike : studio.Alike other)
include blind alike

theorem kept_alike : p.kept setting studio = p.kept setting other := by
  have same := blind setting (Scene.Alike.of_studio p.screen alike)
  unfold kept
  generalize p.behaviour.setUp setting ⟨p.screen, studio⟩ = one at same
  generalize p.behaviour.setUp setting ⟨p.screen, other⟩ = two at same
  obtain ⟨⟨screen, one⟩, fault⟩ := one
  obtain ⟨⟨_, two⟩, _⟩ := two
  obtain ⟨⟨rfl, -⟩, rfl⟩ := same
  rfl

theorem leaves_alike : (p.leaves setting studio).Alike (p.leaves setting other) :=
  (blind setting (Scene.Alike.of_studio p.screen alike)).scene.studio

end LogBlind

theorem files_leaves (readOnly : p.behaviour.ReadOnly) :
    (p.leaves setting studio).files = studio.files := readOnly.setUp setting ⟨p.screen, studio⟩

end Plugin

section Builtin

/-- The bitmap of the splash screen is in a directory, and it can be used. -/
def Splash.Accepted (files : FileTree) (directory : String) : Prop :=
  ∃ bytes picture, files.read (FileTree.join directory Panel.splashFile) = .ok bytes ∧
    Netpbm.read Panel.size bytes = .ok picture

theorem Splash.accepted_iff {files : FileTree} {directory : String} :
    Splash.Accepted files directory ↔ ∃ picture,
      loadBitmap files (FileTree.join directory Panel.splashFile) Panel.size = .ok picture := by
  unfold Splash.Accepted loadBitmap
  split <;> next found => simp [found]

/-- A bitmap that can be used has the size of the panel, so both frames are added. -/
theorem Splash.setUp_of_loaded {setting : Setting} (scene : Scene) {logo : Bitmap}
    (loaded : loadBitmap scene.studio.files
      (FileTree.join setting.dataDirectory Panel.splashFile) Panel.size = .ok logo) :
    Splash.setUp setting scene =
      (Splash.brand setting.productName { scene with screen := { scene.screen with
        frames := scene.screen.frames ++ [⟨logo, logoTicks⟩] ++ [⟨logo, brandedTicks⟩] } },
        none) := by
  have size : logo.size = Panel.size := by
    unfold loadBitmap at loaded
    split at loaded
    · cases loaded
    · exact (Netpbm.read_sound loaded).1
  unfold Splash.setUp Scene.addFile
  rw [loaded]
  dsimp only
  rw [Screen.addFrame_of_size _ _ size]
  unfold Scene.settle
  dsimp only
  rw [Screen.picture_last_append]
  dsimp only
  rw [Screen.addFrame_of_size _ _ size]

/-- With a bitmap that can be used the splash screen is built. The texts cannot fail. -/
theorem Splash.setUp_of_accepted {setting : Setting} (scene : Scene)
    (accepted : Splash.Accepted scene.studio.files setting.dataDirectory) :
    (Splash.setUp setting scene).2 = none ∧ (Splash.setUp setting scene).1.screen.frames ≠ [] := by
  obtain ⟨logo, loaded⟩ := accepted_iff.mp accepted
  rw [setUp_of_loaded scene loaded]
  exact ⟨rfl, (Splash.brand_reaches ..).frames_ne_nil (by simp)⟩

/-- Without a bitmap that can be used nothing is done, and no font is asked for. -/
theorem Splash.setUp_of_refused {setting : Setting} (scene : Scene)
    (refused : ¬ Splash.Accepted scene.studio.files setting.dataDirectory) :
    ∃ fault, Splash.setUp setting scene = (scene, some fault) := by
  cases loaded : loadBitmap scene.studio.files
      (FileTree.join setting.dataDirectory Panel.splashFile) Panel.size with
  | ok logo => exact (refused (accepted_iff.mpr ⟨logo, loaded⟩)).elim
  | error fault =>
    refine ⟨fault, ?_⟩
    rw [Splash.setUp, Scene.addFile, loaded]

theorem Splash.discarded_of_refused (memory : σ) {setting : Setting} {studio : Studio}
    (refused : ¬ Splash.Accepted studio.files setting.dataDirectory) :
    (Splash.plugin memory).kept setting studio = none ∧
      (Splash.plugin memory).leaves setting studio = studio := by
  obtain ⟨fault, failed⟩ := setUp_of_refused ⟨(Splash.plugin memory).screen, studio⟩ refused
  exact Plugin.discarded_of_fault (p := Splash.plugin memory) failed

theorem Splash.exists_kept (memory : σ) {setting : Setting} {studio : Studio}
    (accepted : Splash.Accepted studio.files setting.dataDirectory) :
    ∃ q, (Splash.plugin memory).kept setting studio = some q := by
  obtain ⟨done, frames⟩ := setUp_of_accepted ⟨(Splash.plugin memory).screen, studio⟩ accepted
  exact Plugin.exists_kept done frames

/-- The card has its blank frame whatever comes of the texts. -/
theorem EndCard.exists_kept (memory : σ) (setting : Setting) (studio : Studio) :
    ∃ q, (EndCard.plugin memory).kept setting studio = some q := by
  have built (scene : Scene) : (EndCard.setUp setting scene).2 = none ∧
      (EndCard.setUp setting scene).1.screen.frames ≠ [] := by
    have drawn := Screen.draw_of_ok (f := fun picture => .ok (border picture))
      (Screen.picture_last_append scene.screen ⟨Bitmap.blankFrame, 0⟩) rfl
    unfold EndCard.setUp Screen.addBlank
    rw [Screen.addFrame_of_size _ _ rfl]
    dsimp only
    rw [drawn]
    refine ⟨rfl, ?_⟩
    refine (Screen.Reaches.write ..).frames_ne_nil ((Screen.Reaches.write ..).frames_ne_nil ?_)
    simp [Screen.setPicture]
  exact Plugin.exists_kept (built _).1 (built _).2

/-- The monitor needs nothing but its blank frame. -/
theorem SystemMonitor.exists_kept (feed : SensorFeed) (setting : Setting) (studio : Studio) :
    ∃ q, (SystemMonitor.plugin feed).kept setting studio = some q :=
  Plugin.exists_kept rfl (List.cons_ne_nil _ _)

end Builtin

end LcdCompositor
