import LcdCompositor.Plugin.Builtin
import LcdCompositor.Proofs.Screen.Picture

/-!
# What touches the files

Screens read fonts and pictures from files, and write none. A sheet that they have asked for is
kept, and is the one that its file would have given again. So every drawing operation hands back
the files of the studio as it found them, and the sheet that any request gets, and so do the
built-in plugins.
-/

namespace LcdCompositor

namespace Studio

variable (s : Studio)

/-- What there is to be had from a studio: the files, and a sheet for every font. -/
def offer : FileTree × (Font → Option GlyphSheet) := (s.files, s.answers)

/-- The log does not count among it. -/
theorem Alike.offer {s t : Studio} (h : s.Alike t) : s.offer = t.offer :=
  congrArg₂ Prod.mk h.files h.answers

@[simp] theorem offer_report (level : Level) (text : String) :
    (s.report level text).offer = s.offer := (Alike.report s level text).offer

@[simp] theorem offer_sheet (font : Font) : (s.sheet font).2.offer = s.offer := by
  have files : (s.sheet font).2.files = s.files := by
    rw [Studio.sheet]
    split
    · rfl
    · split <;> rfl
  exact congrArg₂ Prod.mk files (s.answers_sheet font)

@[simp] theorem offer_textWidth (font : Font) (text : String) :
    (s.textWidth font text).2.offer = s.offer := by
  have asked := s.offer_sheet font
  rw [textWidth]
  split <;> next result => rwa [result] at asked

end Studio

namespace Scene

variable (scene : Scene)

/-- Whether a shape is drawn or not, only the log of the studio changes. -/
theorem alike_drawOr (what : String) (f : Bitmap → Except Fault Bitmap) :
    (scene.drawOr what f).studio.Alike scene.studio := by
  rw [drawOr]
  split <;> exact ⟨rfl, rfl⟩

theorem alike_padlock (locked : Bool) (x y : Nat) :
    (scene.padlock locked x y).studio.Alike scene.studio := alike_drawOr ..

@[simp] theorem offer_bar (percent x y : Nat) :
    (scene.bar percent x y).studio.offer = scene.studio.offer := (scene.alike_drawOr ..).offer

@[simp] theorem offer_line (x y size : Nat) :
    (scene.line x y size).studio.offer = scene.studio.offer := (scene.alike_drawOr ..).offer

@[simp] theorem offer_write (slot : Slot) (font : Font) (text : String) (x y : Int) :
    (scene.write slot font text x y).studio.offer = scene.studio.offer := by
  have asked := scene.studio.offer_sheet font
  rw [write]
  split
  next fault studio result =>
    rw [result] at asked
    exact (Studio.offer_report ..).trans asked
  next sheet studio result =>
    rw [result] at asked
    dsimp only
    split
    · exact (Studio.offer_report ..).trans asked
    · split
      · exact asked
      · exact (Studio.offer_report ..).trans asked

@[simp] theorem offer_settle (result : Except Fault Screen) :
    (scene.settle result).1.studio.offer = scene.studio.offer := by
  cases result <;> rfl

@[simp] theorem offer_addFile (path : String) (count : UInt16) :
    (scene.addFile path count).1.studio.offer = scene.studio.offer := by
  rw [addFile]
  split
  · exact scene.offer_settle _
  · rfl

end Scene

variable {σ α : Type}

/-- A behaviour that leaves something of the studio as it is. -/
structure Behaviour.Keeps (b : Behaviour σ) (view : Studio → α) : Prop where
  setUp : ∀ setting (scene : Scene),
    view (b.setUp setting scene).1.studio = view scene.studio
  refresh : ∀ memory (scene : Scene),
    view (b.refresh memory scene).scene.studio = view scene.studio

/-- A behaviour that changes no file. -/
abbrev Behaviour.ReadOnly (b : Behaviour σ) : Prop := b.Keeps (·.files)

theorem Behaviour.Keeps.readOnly {b : Behaviour σ} (h : b.Keeps Studio.offer) : b.ReadOnly where
  setUp setting scene := congrArg Prod.fst (h.setUp setting scene)
  refresh memory scene := congrArg Prod.fst (h.refresh memory scene)

namespace Plugin

variable {p : Plugin σ} {view : Studio → α}

theorem view_setUp (keeps : p.behaviour.Keeps view) (setting : Setting) (studio : Studio) :
    view (p.setUp setting studio).2.1 = view studio := by
  have built := keeps.setUp setting ⟨p.screen, studio⟩
  rw [setUp]
  split
  next scene fault result => rwa [result] at built
  next scene result =>
    rw [result] at built
    split <;> exact built

theorem view_refresh (keeps : p.behaviour.Keeps view) (studio : Studio) :
    view (p.refresh studio).2.1 = view studio :=
  keeps.refresh p.memory ⟨p.screen, studio⟩

end Plugin

section Builtin

theorem Behaviour.still_keeps {view : Studio → α}
    {setUp : Setting → Scene → Scene × Option Fault}
    (h : ∀ setting (scene : Scene), view (setUp setting scene).1.studio = view scene.studio) :
    (Behaviour.still (σ := σ) setUp).Keeps view := ⟨h, fun _ _ => rfl⟩

theorem Splash.offer_setUp (setting : Setting) (scene : Scene) :
    (Splash.setUp setting scene).1.studio.offer = scene.studio.offer := by
  have loaded := scene.offer_addFile
    (FileTree.join setting.dataDirectory Panel.splashFile) logoTicks
  rw [Splash.setUp]
  split
  next added fault result => rwa [result] at loaded
  next added result =>
    rw [result] at loaded
    split
    · exact loaded
    · split
      · exact loaded
      · simpa [Splash.brand] using loaded

namespace SystemMonitor

@[simp] theorem offer_load (scene : Scene) (label : String) (percent : UInt8) (row : Nat) :
    (load scene label percent row).studio.offer = scene.studio.offer := by
  simp [load]

theorem offer_drawLoads (scene : Scene) (reading : Snapshot) :
    (drawLoads scene reading).studio.offer = scene.studio.offer := by
  simp [drawLoads, Scene.clear]

theorem offer_drawRates (scene : Scene) (reading : Snapshot) :
    (drawRates scene reading).1.studio.offer = scene.studio.offer := by
  rw [drawRates]
  dsimp only
  split <;> simp [writeRates]

theorem behaviour_keeps : Behaviour.Keeps ⟨setUp, refresh⟩ Studio.offer where
  setUp _ scene := scene.offer_settle _
  refresh feed scene := by
    dsimp only [refresh]
    rw [offer_drawRates, offer_drawLoads]

end SystemMonitor

theorem EndCard.offer_setUp (setting : Setting) (scene : Scene) :
    (EndCard.setUp setting scene).1.studio.offer = scene.studio.offer := by
  rw [EndCard.setUp]
  split
  · rfl
  · split
    · rfl
    · simp

/-- The built-in plugins leave the files and the sheets to be had, over any feed. -/
theorem builtinPlugins_keep (feed : SensorFeed) :
    ∀ p ∈ builtinPlugins feed, p.behaviour.Keeps Studio.offer := by
  intro p member
  simp only [builtinPlugins, List.mem_cons, List.not_mem_nil, or_false] at member
  rcases member with rfl | rfl | rfl
  · exact Behaviour.still_keeps Splash.offer_setUp
  · exact SystemMonitor.behaviour_keeps
  · exact Behaviour.still_keeps EndCard.offer_setUp

end Builtin

end LcdCompositor
