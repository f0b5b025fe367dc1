import LcdCompositor.Font
import LcdCompositor.Proofs.History
import LcdCompositor.Proofs.Netpbm.RoundTrip

/-!
# What the font cache remembers

Between two requests for a font sheets may be installed and files may change. From a
history of such events follows what the cache keeps: the sheet that was installed
last, or else the one that the first successful request found in its file. A request
that fails is not part of that, so the histories with it and without it lead to the
same cache.
-/

namespace LcdCompositor

/-- What can happen between a studio and its files. -/
inductive FontEvent
  /-- The sheet of a font is asked for. -/
  | request (font : Font)
  /-- A sheet is put into the cache, whatever is kept there. -/
  | install (font : Font) (sheet : GlyphSheet)
  /-- Files are written or removed. -/
  | refile (files : FileTree)

/-- The font that an event is about. -/
def FontEvent.subject : FontEvent → Option Font
  | .request font => some font
  | .install font _ => some font
  | .refile _ => none

namespace Studio

/-- A studio after an event. -/
def use (s : Studio) : FontEvent → Studio
  | .request font => (s.sheet font).2
  | .install font sheet => { s with fonts := s.fonts.insert font sheet }
  | .refile files => { s with files }

/-- A studio after a history. -/
def uses (s : Studio) (history : List FontEvent) : Studio := history.foldl use s

/-- What is read for a font that is not kept. -/
def load (s : Studio) (font : Font) : Except Fault GlyphSheet :=
  GlyphSheet.load s.files s.fonts.directory font.spec

/-- An event behind which a font is kept: a request that gets a sheet, or an
installation. -/
def Supplies (s : Studio) (font : Font) : FontEvent → Prop
  | .request asked => asked = font ∧ ∃ sheet, (s.sheet font).1 = .ok sheet
  | .install target _ => target = font
  | .refile _ => False

/-- A history in which some event supplies a font. -/
def Supplied (s : Studio) (history : List FontEvent) (font : Font) : Prop :=
  ∃ event before after, history = before ++ event :: after ∧ (s.uses before).Supplies font event

/-- Where a sheet comes from: the last installation, or where there is none the file as
it was at the first request that got a sheet. -/
def Origin (s : Studio) (history : List FontEvent) (font : Font) (sheet : GlyphSheet) : Prop :=
  (∃ before after, history = before ++ .install font sheet :: after ∧
    ∀ other, .install font other ∉ after) ∨
  (∀ other, .install font other ∉ history) ∧
    ∃ before after, history = before ++ .request font :: after ∧ ¬ s.Supplied before font ∧
      (s.uses before).load font = .ok sheet

/-- Two studios that differ in nothing but their log. -/
structure Alike (s t : Studio) : Prop where
  files : s.files = t.files
  fonts : s.fonts = t.fonts

variable {s t : Studio} {font : Font} {sheet other : GlyphSheet} {event : FontEvent}
  {history before after : List FontEvent}

@[simp] theorem uses_nil (s : Studio) : s.uses [] = s := rfl

@[simp] theorem uses_cons (s : Studio) (event : FontEvent) (history : List FontEvent) :
    s.uses (event :: history) = (s.use event).uses history := rfl

@[simp] theorem uses_append (s : Studio) (before after : List FontEvent) :
    s.uses (before ++ after) = (s.uses before).uses after := List.foldl_append

section Request

theorem sheet_of_kept (kept : s.fonts.sheets font = some sheet) :
    s.sheet font = (.ok sheet, s) := by
  rw [Studio.sheet, kept]

theorem sheet_of_loaded (missing : s.fonts.sheets font = none) (loaded : s.load font = .ok sheet) :
    (s.sheet font).1 = .ok sheet ∧
      (s.sheet font).2.Alike { s with fonts := s.fonts.insert font sheet } := by
  rw [load] at loaded
  rw [Studio.sheet, missing]
  dsimp only
  rw [loaded]
  exact ⟨rfl, rfl, rfl⟩

theorem sheet_of_failed {fault : Fault} (missing : s.fonts.sheets font = none)
    (failed : s.load font = .error fault) :
    (s.sheet font).1 = .error fault ∧ (s.sheet font).2.Alike s := by
  rw [load] at failed
  rw [Studio.sheet, missing]
  dsimp only
  rw [failed]
  exact ⟨rfl, rfl, rfl⟩

/-- A font that is not kept is answered for by its file. -/
theorem sheet_of_missing (missing : s.fonts.sheets font = none) :
    (s.sheet font).1 = s.load font := by
  cases result : s.load font with
  | ok sheet => exact (sheet_of_loaded missing result).1
  | error fault => exact (sheet_of_failed missing result).1

theorem sheet_eq_ok_iff :
    (s.sheet font).1 = .ok sheet ↔
      s.fonts.sheets font = some sheet ∨
        s.fonts.sheets font = none ∧ s.load font = .ok sheet := by
  cases kept : s.fonts.sheets font with
  | none => simp [sheet_of_missing kept]
  | some old => simp [sheet_of_kept kept]

/-- A request that fails leaves nothing but a record. -/
theorem alike_of_error {fault : Fault} (failed : (s.sheet font).1 = .error fault) :
    (s.sheet font).2.Alike s := by
  cases kept : s.fonts.sheets font with
  | none => exact (sheet_of_failed kept ((sheet_of_missing kept).symm.trans failed)).2
  | some old => simp [sheet_of_kept kept] at failed

end Request

section Step

/-- What an event makes of the cache: an installation counts in any case, and a request
only where nothing is kept. -/
theorem sheets_use_iff :
    (s.use event).fonts.sheets font = some sheet ↔
      event = .install font sheet ∨ (∀ other, event ≠ .install font other) ∧
        (s.fonts.sheets font = some sheet ∨
          s.fonts.sheets font = none ∧ event = .request font ∧ s.load font = .ok sheet) := by
  cases event with
  | refile files => simp [use]
  | install target new =>
    by_cases same : font = target
    · subst same
      simp [use]
    · simp [use, FontCache.sheets_insert_of_ne _ _ same, Ne.symm same]
  | request asked =>
    cases kept : s.fonts.sheets asked with
    | some old =>
      rw [use, sheet_of_kept kept]
      have elsewhere : s.fonts.sheets font = none → asked ≠ font := by
        rintro missing rfl
        simp [kept] at missing
      simp +contextual [elsewhere]
    | none =>
      cases loaded : s.load asked with
      | error fault =>
        rw [use, (sheet_of_failed kept loaded).2.fonts]
        have unread : asked = font → s.load font ≠ .ok sheet := by
          rintro rfl
          simp [loaded]
        simp +contextual [unread]
      | ok new =>
        rw [use, (sheet_of_loaded kept loaded).2.fonts]
        by_cases same : font = asked
        · subst same
          simp [kept, loaded]
        · simp [FontCache.sheets_insert_of_ne _ _ same, Ne.symm same]

theorem has_iff : s.fonts.has font ↔ ∃ sheet, s.fonts.sheets font = some sheet :=
  Option.isSome_iff_exists

theorem not_has_iff : ¬ s.fonts.has font ↔ s.fonts.sheets font = none := by
  rw [FontCache.has, Option.not_isSome_iff_eq_none]

/-- A font is kept behind an event if it was kept before or the event supplies it. -/
theorem has_use_iff :
    (s.use event).fonts.has font ↔ s.fonts.has font ∨ s.Supplies font event := by
  simp only [has_iff, sheets_use_iff]
  cases event with
  | refile files => simp [Supplies]
  | install target new =>
    by_cases same : target = font
    · simp [Supplies, same]
    · simp [Supplies, same]
  | request asked =>
    have answered : (∃ sheet, (s.sheet font).1 = .ok sheet) ↔
        (∃ sheet, s.fonts.sheets font = some sheet) ∨
          s.fonts.sheets font = none ∧ ∃ sheet, s.load font = .ok sheet := by
      simp [sheet_eq_ok_iff, exists_or]
    by_cases same : asked = font
    · subst same
      simp [Supplies, answered, exists_or]
    · simp [Supplies, same]

/-- An event about one font leaves what is kept for the others. -/
theorem sheets_use_of_ne (elsewhere : event.subject ≠ some font) :
    (s.use event).fonts.sheets font = s.fonts.sheets font := by
  refine Option.ext fun sheet => ?_
  have notInstalled (other : GlyphSheet) : event ≠ .install font other := by
    rintro rfl
    exact elsewhere rfl
  have notRequested : event ≠ .request font := by
    rintro rfl
    exact elsewhere rfl
  simp [sheets_use_iff, notInstalled, notRequested]

theorem directory_use (s : Studio) (event : FontEvent) :
    (s.use event).fonts.directory = s.fonts.directory := by
  cases event with
  | refile files => rfl
  | install target new => rfl
  | request asked =>
    rw [use, Studio.sheet]
    split
    · rfl
    · split <;> rfl

theorem directory_uses (s : Studio) (history : List FontEvent) :
    (s.uses history).fonts.directory = s.fonts.directory := by
  induction history generalizing s with
  | nil => rfl
  | cons event rest ih => rw [uses_cons, ih, directory_use]

/-- Studios that differ in their log are used alike. -/
theorem Alike.use (alike : s.Alike t) (event : FontEvent) : (s.use event).Alike (t.use event) := by
  obtain ⟨files, fonts, log⟩ := s
  obtain ⟨_, _, other⟩ := t
  obtain ⟨rfl, rfl⟩ := alike
  cases event with
  | refile files => exact ⟨rfl, rfl⟩
  | install target new => exact ⟨rfl, rfl⟩
  | request asked =>
    simp only [Studio.use, Studio.sheet]
    split
    · exact ⟨rfl, rfl⟩
    · split <;> exact ⟨rfl, rfl⟩

theorem Alike.uses (alike : s.Alike t) (history : List FontEvent) :
    (s.uses history).Alike (t.uses history) := by
  induction history generalizing s t with
  | nil => exact alike
  | cons event rest ih => exact ih (alike.use event)

end Step

section Run

theorem supplied_concat :
    s.Supplied (history ++ [event]) font ↔
      s.Supplied history font ∨ (s.uses history).Supplies font event := by
  simp only [Supplied, exists_cut_concat, exists_or, exists_eq_left']

/-- From an empty cache, a font is kept exactly if the history supplies it. -/
theorem has_uses_iff (empty : ∀ font, s.fonts.sheets font = none) (history : List FontEvent)
    (font : Font) : (s.uses history).fonts.has font ↔ s.Supplied history font := by
  induction history using List.reverseRecOn with
  | nil =>
    rw [uses_nil, has_iff]
    simp [empty, Supplied]
  | append_singleton history event ih =>
    rw [uses_append, uses_cons, uses_nil, has_use_iff, supplied_concat, ih]

/-- The last event is the origin of a sheet if it installs the sheet, or if it is the
first request that gets one and nothing was installed. -/
theorem origin_concat :
    s.Origin (history ++ [event]) font sheet ↔
      event = .install font sheet ∨ (∀ other, event ≠ .install font other) ∧
        (s.Origin history font sheet ∨ (∀ other, .install font other ∉ history) ∧
          event = .request font ∧ ¬ s.Supplied history font ∧
            (s.uses history).load font = .ok sheet) := by
  simp only [Origin, exists_cut_concat, List.mem_append, List.mem_singleton, not_or]
  by_cases installs : ∃ other, event = .install font other
  · obtain ⟨other, rfl⟩ := installs
    simp [forall_and]
  · have others (other : GlyphSheet) : event ≠ .install font other :=
      fun same => installs ⟨other, same⟩
    simp [others, Ne.symm (others _), and_or_left, or_assoc]

theorem supplied_of_mem (installed : .install font other ∈ history) : s.Supplied history font := by
  obtain ⟨before, after, rfl⟩ := List.append_of_mem installed
  exact ⟨_, before, after, rfl, rfl⟩

/-- From an empty cache, what is kept is what the history is the origin of. -/
theorem sheets_uses_iff (empty : ∀ font, s.fonts.sheets font = none) (history : List FontEvent)
    (font : Font) (sheet : GlyphSheet) :
    (s.uses history).fonts.sheets font = some sheet ↔ s.Origin history font sheet := by
  induction history using List.reverseRecOn with
  | nil => simp [empty, Origin]
  | append_singleton history event ih =>
    -- The step and the origin say the same, once "not kept" is read as "not supplied".
    have uninstalled (unsupplied : ¬ s.Supplied history font) (other : GlyphSheet) :
        .install font other ∉ history := fun installed => unsupplied (supplied_of_mem installed)
    rw [uses_append, uses_cons, uses_nil, sheets_use_iff, origin_concat, ih, ← not_has_iff,
      has_uses_iff empty]
    tauto

end Run

end Studio

namespace Studio.Alike

variable {s t u : Studio}

theorem symm (h : s.Alike t) : t.Alike s := ⟨h.files.symm, h.fonts.symm⟩

theorem trans (first : s.Alike t) (second : t.Alike u) : s.Alike u :=
  ⟨first.files.trans second.files, first.fonts.trans second.fonts⟩

/-- A record changes nothing else. -/
theorem report (s : Studio) (level : Level) (text : String) : (s.report level text).Alike s :=
  ⟨rfl, rfl⟩

/-- A request gets the same answer. -/
theorem sheet (h : s.Alike t) (font : Font) :
    (s.sheet font).1 = (t.sheet font).1 ∧ (s.sheet font).2.Alike (t.sheet font).2 := by
  refine ⟨?_, h.use (.request font)⟩
  cases kept : t.fonts.sheets font with
  | some sheet => rw [sheet_of_kept kept, sheet_of_kept (h.fonts ▸ kept)]
  | none =>
    rw [sheet_of_missing kept, sheet_of_missing (h.fonts ▸ kept), load, load, h.files, h.fonts]

end Studio.Alike

section Written

variable {picture : Bitmap} {files : FileTree} {directory : String}

/-- Every font accepts any picture of its size. -/
theorem Font.ofBitmap_spec (font : Font) (size : picture.size = font.spec.sheet) :
    GlyphSheet.ofBitmap picture font.spec =
      .ok ⟨font.spec, picture, font.spec.placements⟩ := by
  have geometry : font.spec.widthSupported = true ∧ ¬ (font.spec.cellHeight = 0 ∨
      font.spec.cellWidth ≤ font.spec.leftShift + font.spec.extraShift) := by
    cases font <;> decide
  have inside : GlyphSheet.outsider font.spec font.spec.sheet font.spec.placements = none := by
    cases font <;> decide +kernel
  rw [GlyphSheet.ofBitmap, geometry.1, if_neg (by decide), if_neg geometry.2,
    if_neg (not_not.mpr size), size, inside]

/-- A sheet that was written to its file is loaded as if it had never been a file. -/
theorem GlyphSheet.load_written {spec : FontSpec} (size : picture.size = spec.sheet)
    (written : files.read (FileTree.join directory spec.file) = .ok (Netpbm.write picture)) :
    GlyphSheet.load files directory spec = GlyphSheet.ofBitmap picture spec := by
  rw [GlyphSheet.load, loadBitmap, written, ← size]
  dsimp only
  rw [Netpbm.read_write_self]
  rfl

end Written

/-- After any history from an empty cache, the cache keeps what the history has supplied,
and from where the history says. A font that is not kept is answered for by its file as
it is now, and kept only if that succeeds; a request that fails might as well not have
been made. No event changes what is kept for another font. Sheets that were written to
their files come back as they were. -/
theorem cache_follows_history (files : FileTree) (directory : String) (log : List Record)
    (history : List FontEvent) (font : Font) :
    let start : Studio := ⟨files, FontCache.empty directory, log⟩
    let studio := start.uses history
    (studio.fonts.has font ↔ start.Supplied history font) ∧
    (studio.fonts.has font → (studio.sheet font).2 = studio ∧
      (∃ sheet, (studio.sheet font).1 = .ok sheet) ∧
      ∀ sheet, (studio.sheet font).1 = .ok sheet ↔ start.Origin history font sheet) ∧
    (¬ studio.fonts.has font →
      (studio.sheet font).1 = GlyphSheet.load studio.files directory font.spec ∧
      (studio.sheet font).2.fonts =
        match GlyphSheet.load studio.files directory font.spec with
        | .ok sheet => studio.fonts.insert font sheet
        | .error _ => studio.fonts) ∧
    (∀ before after fault, history = before ++ .request font :: after →
      ((start.uses before).sheet font).1 = .error fault →
      studio.Alike (start.uses (before ++ after))) ∧
    (∀ event : FontEvent, event.subject ≠ some font →
      (studio.use event).fonts.sheets font = studio.fonts.sheets font) ∧
    ∀ picture : Bitmap, ¬ studio.fonts.has font → picture.size = font.spec.sheet →
      studio.files.read (FileTree.join directory font.spec.file) = .ok (Netpbm.write picture) →
      ∃ sheet, GlyphSheet.ofBitmap picture font.spec = .ok sheet ∧
        (studio.sheet font).1 = .ok sheet := by
  intro start studio
  have empty (font : Font) : start.fonts.sheets font = none := rfl
  have directed : studio.fonts.directory = directory := Studio.directory_uses start history
  have loads : studio.load font = GlyphSheet.load studio.files directory font.spec := by
    rw [Studio.load, directed]
  refine ⟨Studio.has_uses_iff empty history font, ?kept, ?missing, ?failed, ?others, ?written⟩
  case kept =>
    intro has
    obtain ⟨sheet, kept⟩ := Studio.has_iff.mp has
    have answer := Studio.sheet_of_kept kept
    refine ⟨congrArg Prod.snd answer, ⟨sheet, congrArg Prod.fst answer⟩, fun other => ?_⟩
    rw [← Studio.sheets_uses_iff empty history font other, Studio.sheet_eq_ok_iff]
    change studio.fonts.sheets font = some other ∨ _ ↔ studio.fonts.sheets font = some other
    simp [kept]
  case missing =>
    intro hasNot
    have missing := Studio.not_has_iff.mp hasNot
    rw [← loads]
    refine ⟨Studio.sheet_of_missing missing, ?_⟩
    cases result : studio.load font with
    | ok sheet => exact (Studio.sheet_of_loaded missing result).2.fonts
    | error fault => exact (Studio.sheet_of_failed missing result).2.fonts
  case failed =>
    rintro before after fault rfl failed
    have forgotten := (Studio.alike_of_error failed).uses after
    simpa [studio, Studio.use] using forgotten
  case others => exact fun event elsewhere => Studio.sheets_use_of_ne elsewhere
  case written =>
    intro picture hasNot size written
    have answer := Studio.sheet_of_missing (Studio.not_has_iff.mp hasNot)
    rw [loads, GlyphSheet.load_written size written] at answer
    exact ⟨_, font.ofBitmap_spec size, answer.trans (font.ofBitmap_spec size)⟩

/-- A dark sheet of the smallest font. -/
def darkSheet : Bitmap := Bitmap.dark Font.mono5x8.spec.sheet (by decide)

/-- Files among which only the smallest font has a sheet. -/
def singleSheet : FileTree :=
  FileTree.empty.plant ["data", "monospace85.pbm"] (.file (Netpbm.write darkSheet))

/-- A font is asked for before its sheet is there, then the sheet is written, the font is
asked for again, and the sheet is removed. -/
theorem cache_follows_history_retry :
    let start : Studio := ⟨FileTree.empty, FontCache.empty "data", []⟩
    let written : List FontEvent := [.request .mono5x8, .refile singleSheet]
    let removed : List FontEvent := written ++ [.request .mono5x8, .refile FileTree.empty]
    (¬ (start.uses written).fonts.has .mono5x8 ∧
      singleSheet.read (FileTree.join "data" Font.mono5x8.spec.file) =
        .ok (Netpbm.write darkSheet) ∧
      ∃ sheet, GlyphSheet.ofBitmap darkSheet Font.mono5x8.spec = .ok sheet ∧
        ((start.uses written).sheet .mono5x8).1 = .ok sheet) ∧
    ((start.sheet .mono5x8).1 = .error (.io .notFound) ∧
      (start.uses written).Alike (start.uses [.refile singleSheet])) ∧
    ((start.uses removed).fonts.has .mono5x8 ∧
      ∃ sheet, ((start.uses removed).sheet .mono5x8).1 = .ok sheet ∧
        start.Origin removed .mono5x8 sheet) ∧
    (FontEvent.request .mono6x8).subject ≠ some .mono5x8 ∧
      ((start.uses removed).use (.request .mono6x8)).fonts.sheets .mono5x8 =
        (start.uses removed).fonts.sheets .mono5x8 := by
  intro start written removed
  have absent : ¬ (start.uses written).fonts.has .mono5x8 := by decide +kernel
  have content : singleSheet.read (FileTree.join "data" Font.mono5x8.spec.file) =
      .ok (Netpbm.write darkSheet) := by decide +kernel
  have vacant : start.files.read (FileTree.join start.fonts.directory Font.mono5x8.spec.file) =
      .error .notFound := by decide +kernel
  have failing : (start.sheet .mono5x8).1 = .error (.io .notFound) := by
    rw [Studio.sheet_of_missing rfl, Studio.load, GlyphSheet.load, loadBitmap, vacant]
    rfl
  have early := cache_follows_history FileTree.empty "data" [] written .mono5x8
  have late := cache_follows_history FileTree.empty "data" [] removed .mono5x8
  have loaded := early.2.2.2.2.2 darkSheet absent rfl content
  have answered : ∃ sheet, ((start.uses written).sheet .mono5x8).1 = .ok sheet := by
    obtain ⟨sheet, -, answer⟩ := loaded
    exact ⟨sheet, answer⟩
  have kept : (start.uses removed).fonts.has .mono5x8 :=
    late.1.mpr ⟨.request .mono5x8, written, [.refile FileTree.empty], rfl, rfl, answered⟩
  obtain ⟨-, ⟨sheet, answer⟩, origin⟩ := late.2.1 kept
  refine ⟨⟨absent, content, loaded⟩, ⟨failing, ?_⟩, ⟨kept, sheet, answer, (origin sheet).mp answer⟩,
    nofun, ?_⟩
  · exact early.2.2.2.1 [] [.refile singleSheet] _ rfl failing
  · exact late.2.2.2.2.1 (.request .mono6x8) nofun

end LcdCompositor
