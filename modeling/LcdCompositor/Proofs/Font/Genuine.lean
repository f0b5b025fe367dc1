import LcdCompositor.Proofs.GlyphSheet.Row
import LcdCompositor.Proofs.Result
import LcdCompositor.Proofs.Screen.Picture

/-!
# Where sheets can come from

A sheet that is read has passed the checks of its font. A sheet that is installed has passed
those of some font, which need not be the one that it is installed for. What is known of the
kept sheets is therefore known of every sheet that a request gets.
-/

namespace LcdCompositor

/-- Sheets that have passed the checks of their own fonts. -/
def GenuineSheets (sheets : Font → Option GlyphSheet) : Prop :=
  ∀ font sheet, sheets font = some sheet →
    ∃ picture, GlyphSheet.ofBitmap picture font.spec = .ok sheet

namespace FontCache

/-- Every kept sheet has passed the checks of some font. -/
def Checked (cache : FontCache) : Prop :=
  ∀ font sheet, cache.sheets font = some sheet →
    ∃ picture spec, GlyphSheet.ofBitmap picture spec = .ok sheet

/-- Every kept sheet has passed the checks of its own font. -/
def Genuine (cache : FontCache) : Prop := GenuineSheets cache.sheets

variable {cache : FontCache} {font : Font} {picture : Bitmap} {sheet : GlyphSheet}

theorem genuine_empty (directory : String) : (empty directory).Genuine := by
  intro font sheet kept
  cases kept

theorem Genuine.insert (h : cache.Genuine)
    (made : GlyphSheet.ofBitmap picture font.spec = .ok sheet) :
    (cache.insert font sheet).Genuine := by
  intro other found kept
  by_cases same : other = font
  · subst same
    rw [sheets_insert_self] at kept
    cases kept
    exact ⟨picture, made⟩
  · rw [sheets_insert_of_ne _ _ same] at kept
    exact h other found kept

theorem Genuine.checked (h : cache.Genuine) : cache.Checked := by
  intro font sheet kept
  obtain ⟨picture, made⟩ := h font sheet kept
  exact ⟨picture, font.spec, made⟩

end FontCache

namespace Studio

variable {s : Studio} {font : Font} {g : GlyphSheet}

/-- A sheet that a request gets is kept, or its font has made it from the file. -/
theorem kept_or_made (answered : s.answers font = some g) :
    s.fonts.sheets font = some g ∨ ∃ picture, GlyphSheet.ofBitmap picture font.spec = .ok g := by
  rw [answers_eq, Option.or_eq_some_iff] at answered
  rcases answered with kept | ⟨-, read⟩
  · exact .inl kept
  · cases loaded : s.load font with
    | error fault =>
      rw [loaded] at read
      cases read
    | ok sheet =>
      rw [loaded] at read
      cases read
      obtain ⟨picture, -, made⟩ := bind_eq_ok_iff.mp loaded
      exact .inr ⟨picture, made⟩

theorem genuine_answers (genuine : s.fonts.Genuine) : GenuineSheets s.answers := by
  intro font g answered
  rcases kept_or_made answered with kept | made
  · exact genuine font g kept
  · exact made

theorem accepted_of_answers (checked : s.fonts.Checked) (answered : s.answers font = some g) :
    g.Accepted := by
  rcases kept_or_made answered with kept | ⟨picture, made⟩
  · obtain ⟨picture, spec, made⟩ := checked font g kept
    exact GlyphSheet.accepted_of_ofBitmap made
  · exact GlyphSheet.accepted_of_ofBitmap made

end Studio

end LcdCompositor
