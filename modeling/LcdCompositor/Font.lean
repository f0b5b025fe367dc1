import LcdCompositor.GlyphSheet
import LcdCompositor.Netpbm
import LcdCompositor.FileTree
import LcdCompositor.Log

/-!
# Fonts and their cache

Four fonts come with the data directory. Their sheets are read when they are
first asked for and kept from then on. A sheet that cannot be used is reported
and not remembered, so the next request reads the file again.
-/

namespace LcdCompositor

/-- The fonts that screens write in. -/
inductive Font
  /-- The smallest readable font. -/
  | mono5x8
  /-- Condensed by one pixel. -/
  | mono6x8
  /-- With one blank column in front of every glyph. -/
  | mono8x8
  /-- Bold digits and capitals. -/
  | bold16x16
deriving DecidableEq, Repr

namespace Font

def all : List Font := [mono5x8, mono6x8, mono8x8, bold16x16]

/-- The name that log records use. -/
def name : Font → String
  | mono5x8 => "Monospace85"
  | mono6x8 => "Monospace86"
  | mono8x8 => "Monospace88"
  | bold16x16 => "DejaVuSansBold1616"

/-- The layout of the bold sheet. -/
def boldRows : List String := ["0123456789", "ABCDEFGHIJ", "KLMNOPQRST", "UVWXYZ.:%-", " !?/+'"]

/-- File, geometry and shifts. -/
def spec : Font → FontSpec
  | mono5x8 => ⟨"monospace85.pbm", ⟨80, 48⟩, 5, 8, 0, 0, FontSpec.standardRows⟩
  | mono6x8 => ⟨"monospace86.pbm", ⟨96, 48⟩, 6, 8, 0, 1, FontSpec.standardRows⟩
  | mono8x8 => ⟨"monospace88.pbm", ⟨128, 48⟩, 8, 8, 1, 0, FontSpec.standardRows⟩
  | bold16x16 => ⟨"dejavusansbold1616.pbm", ⟨160, 80⟩, 16, 16, 2, 0, boldRows⟩

end Font

/-- Reads a bitmap of the expected size from a file. -/
def loadBitmap (files : FileTree) (path : String) (expected : Size) : Except Fault Bitmap :=
  match files.read path with
  | .error fault => .error (.io fault)
  | .ok bytes => Netpbm.read expected bytes

/-- Reads the sheet of a font from a directory. -/
def GlyphSheet.load (files : FileTree) (directory : String) (spec : FontSpec) :
    Except Fault GlyphSheet := do
  let picture ← loadBitmap files (FileTree.join directory spec.file) spec.sheet
  GlyphSheet.ofBitmap picture spec

/-- The sheets that have been read so far, and where to read the others. -/
structure FontCache where
  directory : String
  sheets : Font → Option GlyphSheet

namespace FontCache

/-- No sheet has been read. -/
def empty (directory : String) : FontCache := ⟨directory, fun _ => none⟩

/-- Keeps a sheet, in place of one that may be there. -/
def insert (cache : FontCache) (font : Font) (sheet : GlyphSheet) : FontCache :=
  { cache with sheets := fun f => if f = font then some sheet else cache.sheets f }

/-- Whether a sheet is kept. -/
def has (cache : FontCache) (font : Font) : Bool := (cache.sheets font).isSome

@[simp] theorem sheets_insert_self (cache : FontCache) (font : Font) (sheet : GlyphSheet) :
    (cache.insert font sheet).sheets font = some sheet := if_pos rfl

theorem sheets_insert_of_ne (cache : FontCache) {font other : Font} (sheet : GlyphSheet)
    (h : other ≠ font) : (cache.insert font sheet).sheets other = cache.sheets other := if_neg h

end FontCache

/-- What screens draw with: the files, the sheets read from them, and the log. -/
structure Studio where
  files : FileTree
  fonts : FontCache
  /-- The newest record comes first. -/
  log : List Record

namespace Studio

/-- Adds a record to the log. -/
def report (s : Studio) (level : Level) (text : String) : Studio :=
  { s with log := ⟨level, text⟩ :: s.log }

/-- The sheet of a font, read now unless it is kept. -/
def sheet (s : Studio) (font : Font) : Except Fault GlyphSheet × Studio :=
  match s.fonts.sheets font with
  | some sheet => (.ok sheet, s)
  | none =>
    match GlyphSheet.load s.files s.fonts.directory font.spec with
    | .error fault =>
      (.error fault, s.report .error (s!"font {font.name} unusable: " ++ fault.message))
    | .ok sheet =>
      (.ok sheet,
        { s with fonts := s.fonts.insert font sheet }.report .info
          (s!"font {font.name} loaded from " ++ font.spec.file))

/-- The width of a text, and zero if its font cannot be had. -/
def textWidth (s : Studio) (font : Font) (text : String) : Nat × Studio :=
  match s.sheet font with
  | (.ok sheet, s) => (sheet.textWidth text, s)
  | (.error _, s) => (0, s)

/-- The records in the order in which they were made, and the studio without them. -/
def drain (s : Studio) : List Record × Studio := (s.log.reverse, { s with log := [] })

end Studio

end LcdCompositor
