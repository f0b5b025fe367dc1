import LcdCompositor.Proofs.Font.History
import LcdCompositor.Proofs.Plugin.Discreet

/-!
# What a drawing makes of the picture on show

The operations of a scene report what they skip, ask for sheets and put pictures back into
frames. Of all this the picture on show sees little: a shape makes of it what it makes of
any bitmap or leaves it, and a text depends on the answer that its font gets. Answers are
the same before and after a request, whether or not the sheet was kept until then. So what
a row of drawings leaves is a row of functions on bitmaps.
-/

namespace LcdCompositor

namespace Studio

/-- The sheet that a request for a font gets. -/
def answers (s : Studio) (font : Font) : Option GlyphSheet := (s.sheet font).1.toOption

/-- A font is answered for by its kept sheet, or else by its file. -/
theorem answers_eq (s : Studio) (font : Font) :
    s.answers font = (s.fonts.sheets font).or (s.load font).toOption := by
  rw [answers]
  cases kept : s.fonts.sheets font with
  | some sheet =>
    rw [sheet_of_kept kept]
    rfl
  | none =>
    rw [sheet_of_missing kept]
    rfl

theorem Alike.answers {s t : Studio} (h : s.Alike t) : s.answers = t.answers := by
  funext font
  exact congrArg Except.toOption (h.sheet font).1

@[simp] theorem answers_report (s : Studio) (level : Level) (text : String) :
    (s.report level text).answers = s.answers :=
  (Alike.report s level text).answers

/-- A sheet that is kept from now on is the one that its file would have given. -/
@[simp] theorem answers_sheet (s : Studio) (font : Font) :
    (s.sheet font).2.answers = s.answers := by
  cases kept : s.fonts.sheets font with
  | some sheet => rw [sheet_of_kept kept]
  | none =>
    cases loaded : s.load font with
    | error fault => exact (sheet_of_failed kept loaded).2.answers
    | ok sheet =>
      rw [(sheet_of_loaded kept loaded).2.answers]
      funext other
      rw [answers_eq, answers_eq]
      by_cases same : other = font
      · rw [same, FontCache.sheets_insert_self, kept, loaded]
        rfl
      · rw [FontCache.sheets_insert_of_ne _ _ same]
        rfl

@[simp] theorem answers_textWidth (s : Studio) (font : Font) (text : String) :
    (s.textWidth font text).2.answers = s.answers := by
  rw [textWidth]
  split <;> next result =>
    have asked := s.answers_sheet font
    rwa [result] at asked

/-- The width of a text is that in the sheet of its font. -/
theorem textWidth_eq (s : Studio) (font : Font) (text : String) :
    (s.textWidth font text).1 = ((s.answers font).map (·.textWidth text)).getD 0 := by
  rw [textWidth, answers]
  split <;> next result =>
    rw [result]
    rfl

end Studio

namespace Drawing

/-- A shape on a bitmap, which stays as it is where the shape cannot be drawn. -/
def attempt (b : Bitmap) (shape : Bitmap → Except Fault Bitmap) : Bitmap :=
  (shape b).toOption.getD b

/-- A text on a bitmap as far as it can be drawn. Without a sheet there is none of it. -/
def inscribe (sheet : Option GlyphSheet) (b : Bitmap) (s : String) (x y : Int) : Bitmap :=
  match sheet with
  | some sheet => (text sheet b s x y).1
  | none => b

variable {b : Bitmap}

@[simp] theorem size_inscribe (sheet : Option GlyphSheet) (b : Bitmap) (s : String) (x y : Int) :
    (inscribe sheet b s x y).size = b.size := by
  cases sheet with
  | none => rfl
  | some sheet => exact size_text ..

theorem size_attempt {shape : Bitmap → Except Fault Bitmap}
    (keeps : ∀ {b drawn}, shape b = .ok drawn → drawn.size = b.size) :
    (attempt b shape).size = b.size := by
  rw [attempt]
  cases drew : shape b with
  | error fault => rfl
  | ok new => exact keeps drew

end Drawing

/-- A darkened frame of the panel is a dark frame, whatever was on it. -/
theorem Bitmap.clear_eq {b : Bitmap} (size : b.size = Panel.size) : b.clear = blankFrame := by
  apply Bitmap.ext
  · exact size
  · change Array.replicate b.size.packedLength 0 = _
    rw [size]
    rfl

namespace Scene

section Results

variable (scene : Scene) {slot : Slot} {old : Bitmap} {fault : Fault}

/-- What is drawn takes the place of the picture on show; what cannot be drawn leaves it. -/
theorem screen_drawOr (shown : scene.screen.picture .current = .ok old) (what : String)
    (shape : Bitmap → Except Fault Bitmap) :
    (scene.drawOr what shape).screen =
      scene.screen.setPicture .current (Drawing.attempt old shape) := by
  rw [Scene.drawOr, Drawing.attempt]
  cases drawn : shape old with
  | ok new =>
    rw [Screen.draw_of_ok shown drawn]
    rfl
  | error fault =>
    rw [Screen.draw_of_error shown drawn]
    exact (Screen.setPicture_self shown).symm

theorem screen_drawOr_of_vacant (vacant : scene.screen.picture .current = .error fault)
    (what : String) (shape : Bitmap → Except Fault Bitmap) :
    (scene.drawOr what shape).screen = scene.screen := by
  rw [Scene.drawOr, Screen.draw, vacant]
  rfl

theorem answers_drawOr (what : String) (shape : Bitmap → Except Fault Bitmap) :
    (scene.drawOr what shape).studio.answers = scene.studio.answers := by
  rw [Scene.drawOr]
  split
  · rfl
  · exact Studio.answers_report ..

/-- What is written of a text takes the place of the picture in its slot. -/
theorem screen_write (found : scene.screen.picture slot = .ok old) (font : Font) (s : String)
    (x y : Int) :
    (scene.write slot font s x y).screen =
      scene.screen.setPicture slot (Drawing.inscribe (scene.studio.answers font) old s x y) := by
  rw [Scene.write, Studio.answers]
  split
  next fault studio result =>
    rw [result]
    exact (Screen.setPicture_self found).symm
  next sheet studio result =>
    rw [result]
    dsimp only
    rw [found]
    dsimp only [Except.toOption, Drawing.inscribe]
    split
    next drawn drew => rw [drew]
    next drawn fault drew =>
      rw [drew]
      rfl

/-- A text on the frame that was appended last. -/
theorem screen_write_last {s : Screen} {b : Bitmap} {count : UInt16}
    (appended : scene.screen = { s with frames := s.frames ++ [⟨b, count⟩] }) (font : Font)
    (text : String) (x y : Int) :
    (scene.write .last font text x y).screen = { s with frames :=
      s.frames ++ [⟨Drawing.inscribe (scene.studio.answers font) b text x y, count⟩] } := by
  have found := s.picture_last_append ⟨b, count⟩
  rw [← appended] at found
  rw [scene.screen_write found, appended, s.setPicture_last_append]

theorem screen_write_of_vacant (vacant : scene.screen.picture slot = .error fault) (font : Font)
    (s : String) (x y : Int) : (scene.write slot font s x y).screen = scene.screen := by
  rw [Scene.write]
  split
  · rfl
  · dsimp only
    rw [vacant]
    rfl

/-- A text asks for its font, and after that every font is answered for as before. -/
theorem answers_write (slot : Slot) (font : Font) (s : String) (x y : Int) :
    (scene.write slot font s x y).studio.answers = scene.studio.answers := by
  have asked := scene.studio.answers_sheet font
  rw [Scene.write]
  split
  next fault studio result =>
    rw [result] at asked
    exact (Studio.answers_report ..).trans asked
  next sheet studio result =>
    rw [result] at asked
    dsimp only
    split
    · exact (Studio.answers_report ..).trans asked
    · split
      · exact asked
      · exact (Studio.answers_report ..).trans asked

end Results

/-- The picture is on show, and the fonts are what the studio answers with. -/
structure Shows (scene : Scene) (fonts : Font → Option GlyphSheet) (picture : Bitmap) : Prop where
  picture : scene.screen.picture .current = .ok picture
  fonts : scene.studio.answers = fonts

namespace Shows

variable {scene : Scene} {fonts : Font → Option GlyphSheet} {b : Bitmap}

/-- Measuring a text asks for its font, and shows nothing. -/
theorem measure (h : scene.Shows fonts b) (font : Font) (s : String) :
    (scene.studio.textWidth font s).1 = ((fonts font).map (·.textWidth s)).getD 0 ∧
      Shows { scene with studio := (scene.studio.textWidth font s).2 } fonts b := by
  rw [← h.fonts]
  exact ⟨scene.studio.textWidth_eq font s, h.picture, Studio.answers_textWidth ..⟩

/-- Another picture in place of the one on show. -/
theorem repaint (h : scene.Shows fonts b) (new : Bitmap) :
    Shows { scene with screen := scene.screen.setPicture .current new } fonts new :=
  ⟨Screen.picture_setPicture new h.picture, h.fonts⟩

theorem clear (h : scene.Shows fonts b) : scene.clear.Shows fonts b.clear := by
  rw [Scene.clear, Screen.clear, h.picture]
  exact h.repaint b.clear

theorem drawOr (h : scene.Shows fonts b) (what : String) (shape : Bitmap → Except Fault Bitmap) :
    (scene.drawOr what shape).Shows fonts (Drawing.attempt b shape) := by
  constructor
  · rw [scene.screen_drawOr h.picture]
    exact Screen.picture_setPicture _ h.picture
  · exact (answers_drawOr ..).trans h.fonts

theorem bar (h : scene.Shows fonts b) (percent x y : Nat) :
    (scene.bar percent x y).Shows fonts
      (Drawing.attempt b fun b => Drawing.progressBar b percent x y) :=
  h.drawOr ..

theorem line (h : scene.Shows fonts b) (x y size : Nat) :
    (scene.line x y size).Shows fonts
      (Drawing.attempt b fun b => Drawing.verticalLine b x y size) :=
  h.drawOr ..

/-- The padlock is the one that the screen asks for in the end. -/
theorem padlock (h : scene.Shows fonts b) (locked : Bool) (x y : Nat) :
    (scene.padlock locked x y).Shows fonts (Drawing.attempt b fun b =>
      Drawing.padlock b
        (Padlock.rows locked (scene.padlock locked x y).screen.everLocked) x y) := by
  rw [Scene.everLocked_padlock]
  cases locked with
  | false => exact h.drawOr ..
  | true =>
    have marked : Shows { scene with screen := scene.screen.markLocked } fonts b :=
      ⟨h.picture, h.fonts⟩
    exact marked.drawOr ..

theorem write (h : scene.Shows fonts b) (font : Font) (s : String) (x y : Int) :
    (scene.write .current font s x y).Shows fonts (Drawing.inscribe (fonts font) b s x y) := by
  constructor
  · rw [scene.screen_write h.picture, h.fonts]
    exact Screen.picture_setPicture _ h.picture
  · exact (answers_write ..).trans h.fonts

end Shows

end Scene

end LcdCompositor
