import LcdCompositor.Proofs.Drawing.Pitch
import LcdCompositor.Proofs.Netpbm.RoundTrip
import LcdCompositor.Proofs.Plugin.SetUp
import LcdCompositor.Proofs.Screen.Retouch

/-!
# What the splash screen makes of its logo

The second frame of the splash screen is a copy of the logo with two texts on it, and the first
one stays the logo. The product name may be anything: it may be too long, or end at a character
that the font does not have. It never leaves its line. The version is known, so it is also
known where its cells stand and that all of them are drawn.
-/

namespace LcdCompositor.Splash

open Bitmap

/-- Product name and version on a bitmap. -/
def branding (sheet : Option GlyphSheet) (b : Bitmap) (productName : String) : Bitmap :=
  let left := (sheet.map fun g => Panel.size.width.toNat - g.textWidth Panel.version).getD 0
  Drawing.inscribe sheet (Drawing.inscribe sheet b productName (-1) productRow) Panel.version left 0

/-- The line of the product name, and the corner of the version. -/
def Branded (px py : Nat) : Prop := 38 ≤ py ∧ py < 46 ∨ 130 ≤ px ∧ py < 8

variable {picture logo b : Bitmap} {g : GlyphSheet}

/-- The texts go on the frame that was added last. -/
theorem screen_brand (scene : Scene) {s : Screen} {count : UInt16}
    (appended : scene.screen = { s with frames := s.frames ++ [⟨logo, count⟩] })
    (productName : String) :
    (brand productName scene).screen = { s with frames :=
      s.frames ++ [⟨branding (scene.studio.answers .mono5x8) logo productName, count⟩] } := by
  have named := scene.screen_write_last appended .mono5x8 productName (-1) productRow
  have fonts := scene.answers_write .last .mono5x8 productName (-1) productRow
  rw [brand]
  generalize scene.write .last .mono5x8 productName (-1) productRow = written at named fonts ⊢
  have kept := written.studio.answers_sheet .mono5x8
  have answer : (written.studio.sheet .mono5x8).1.toOption = scene.studio.answers .mono5x8 :=
    congrFun fonts .mono5x8
  dsimp only
  generalize written.studio.sheet .mono5x8 = asked at kept answer ⊢
  obtain ⟨sheet, studio⟩ := asked
  dsimp only at kept answer ⊢
  rw [Scene.screen_write_last { written with studio } named]
  dsimp only
  rw [kept, fonts, branding, ← answer]
  cases sheet <;> rfl

/-- The version stands in the last thirty columns of the first eight rows, and all of it. The
product name below has been drawn as far as it goes by then. -/
theorem branding_lettered (made : GlyphSheet.ofBitmap picture Font.mono5x8.spec = .ok g)
    (panel : b.size = Panel.size) (productName : String) :
    ∃ named, ChangesOnly Branded b named ∧
      Drawing.LongestFit g named Panel.version.toList 130 0 6 ∧
      Drawing.Lettered g named (branding (some g) b productName) Panel.version.toList 130 0 6 := by
  obtain ⟨width, height, even⟩ := GlyphSheet.mono5x8_geometry made
  have accepted := GlyphSheet.accepted_of_ofBitmap made
  have known : ∀ c ∈ Panel.version.toList, ∃ cell, g.cell c = some cell := by
    obtain rfl := GlyphSheet.ofBitmap_eq made
    have placed : Panel.version.toList.all (fun c =>
        (Font.mono5x8.spec.placements.reverse.lookup c).isSome) = true := by decide +kernel
    exact fun c inside => Option.isSome_iff_exists.mp (List.all_eq_true.mp placed c inside)
  have column : Panel.size.width.toNat - g.textWidth Panel.version = 130 := by
    rw [← String.ofList_toList (s := Panel.version), GlyphSheet.textWidth_of_pitch even]
    decide
  obtain ⟨written, -, -, name⟩ := Drawing.text_lettered accepted (x := -1) (y := productRow)
    (by decide) (by decide) b productName rfl rfl
  have size := name.size.trans panel
  obtain ⟨count, longest, -, version⟩ := Drawing.text_lettered accepted
    (x := (130 : Nat)) (y := 0) (by decide) (by decide)
    (Drawing.text g b productName (-1) productRow).1 Panel.version (rfl : 130 = _) (rfl : 0 = _)
  obtain rfl : count = 6 := longest.whole_of_room (fun c => (even c).trans width.symm) known
    (by rw [height, height_of_panel size]; decide) (by rw [width, width_of_panel size]; decide)
  refine ⟨_, name.changesOnly.mono ?_, longest, ?_⟩
  · rintro px py ⟨i, -, -, -, above, below⟩
    rw [height] at below
    exact .inl ⟨above, below⟩
  · rw [branding, Option.map_some, Option.getD_some, column]
    exact version

/-- A splash screen with a usable bitmap has two frames. The first one is the bitmap. The second
one shows the same outside of the line of the product name and the corner of the version,
whatever the name is; the corner shows the version. Without the font both frames are equal. -/
theorem branded_copy {setting : Setting} {studio : Studio} {bytes : List UInt8} {logo : Bitmap}
    (genuine : studio.fonts.Genuine)
    (found : studio.files.read (FileTree.join setting.dataDirectory Panel.splashFile) = .ok bytes)
    (valid : Netpbm.read Panel.size bytes = .ok logo) :
    (setUp setting ⟨Screen.new identity .rapid, studio⟩).2 = none ∧
      ∃ branded,
        (setUp setting ⟨Screen.new identity .rapid, studio⟩).1.screen.frames =
          [⟨logo, 10⟩, ⟨branded, 20⟩] ∧
        ChangesOnly (fun px py => 38 ≤ py ∧ py < 46 ∨ 130 ≤ px ∧ py < 8) logo branded ∧
        (studio.answers .mono5x8 = none → branded = logo) ∧
        ∀ g, studio.answers .mono5x8 = some g → ∀ i c, Panel.version.toList[i]? = some c →
          ∃ cell, g.cell c = some cell ∧ ∀ dx < 5, ∀ dy < 8,
            branded.getPixel (130 + 5 * i + dx) dy =
              g.picture.getPixel (cell.column * 5 + dx) (cell.row * 8 + dy) := by
  have loaded : loadBitmap studio.files
      (FileTree.join setting.dataDirectory Panel.splashFile) Panel.size = .ok logo := by
    rw [loadBitmap, found]
    exact valid
  have panel : logo.size = Panel.size := (Netpbm.read_sound valid).1
  rw [setUp_of_loaded ⟨Screen.new identity .rapid, studio⟩ loaded]
  refine ⟨rfl, branding (studio.answers .mono5x8) logo setting.productName, ?frames, ?changes,
    ?same, ?version⟩
  case frames =>
    let alone : Screen := { Screen.new identity .rapid with frames := [⟨logo, logoTicks⟩] }
    let scene : Scene :=
      ⟨{ alone with frames := alone.frames ++ [⟨logo, brandedTicks⟩] }, studio⟩
    have drawn := screen_brand scene (s := alone) rfl setting.productName
    exact congrArg Screen.frames drawn
  case changes =>
    cases answered : studio.answers .mono5x8 with
    | none => exact .refl _ logo
    | some g =>
      obtain ⟨picture, made⟩ := Studio.genuine_answers genuine .mono5x8 g answered
      obtain ⟨-, height, -⟩ := GlyphSheet.mono5x8_geometry made
      obtain ⟨named, name, -, version⟩ := branding_lettered made panel setting.productName
      refine name.trans (version.changesOnly.mono ?_)
      rintro px py ⟨i, -, left, -, -, below⟩
      rw [height] at below
      exact .inr ⟨Nat.le_trans (Nat.le_add_right ..) left, below⟩
  case same =>
    intro missing
    rw [missing]
    rfl
  case version =>
    intro g answered i c here
    obtain ⟨picture, made⟩ := Studio.genuine_answers genuine .mono5x8 g answered
    obtain ⟨width, height, even⟩ := GlyphSheet.mono5x8_geometry made
    obtain ⟨named, -, longest, version⟩ := branding_lettered made panel setting.productName
    have inside : i < 6 := (List.getElem?_eq_some_iff.mp here).1
    obtain ⟨⟨cell, placed⟩, -⟩ := longest.fitting i inside c here
    have pen := longest.penAt_eq even inside
    refine ⟨cell, placed, fun dx hx dy hy => ?_⟩
    have covers : g.Covers (Drawing.penAt g 130 Panel.version.toList i) 0
        (130 + 5 * i + dx) dy := by
      rw [GlyphSheet.Covers, pen, width, height]
      omega
    have shown := version.shows_cell longest inside here placed covers
      (by rw [pen, even]; omega)
    rw [pen, width, height, Nat.add_sub_cancel_left, Nat.sub_zero] at shown
    rw [answered]
    exact shown

/-- A lit logo and a sheet that is dark but for one pixel of the letter in front of the version.
The name ends at its second character, which the font does not have. -/
theorem branded_copy_lit :
    let logo := blankFrame.fill 0xff
    let files : FileTree := ⟨[(["splash.pbm"], .file (Netpbm.write logo))], []⟩
    let sheet := (Bitmap.dark ⟨80, 48⟩ (by decide)).setPixel 77 18 true
    let g : GlyphSheet := ⟨Font.mono5x8.spec, sheet, Font.mono5x8.spec.placements⟩
    let studio : Studio := ⟨files, (FontCache.empty "").insert .mono5x8 g, []⟩
    let setting : Setting := ⟨"", "K¤"⟩
    (setUp setting ⟨Screen.new identity .rapid, studio⟩).2 = none ∧
      ∃ branded,
        (setUp setting ⟨Screen.new identity .rapid, studio⟩).1.screen.frames =
          [⟨logo, 10⟩, ⟨branded, 20⟩] ∧
        branded.getPixel 80 37 = true ∧ branded.getPixel 129 0 = true ∧
        branded.getPixel 130 8 = true ∧ branded.getPixel 130 0 = false ∧
        branded.getPixel 132 2 = true ∧ branded.getPixel 159 7 = false := by
  intro logo files sheet g studio setting
  have made : GlyphSheet.ofBitmap sheet Font.mono5x8.spec = .ok g :=
    GlyphSheet.ofBitmap_of_isOk (by decide +kernel)
  have genuine : studio.fonts.Genuine := (FontCache.genuine_empty "").insert made
  have found : files.read (FileTree.join "" Panel.splashFile) = .ok (Netpbm.write logo) := by
    decide +kernel
  obtain ⟨done, branded, frames, changes, -, version⟩ :=
    @branded_copy setting studio _ logo genuine found (Netpbm.read_write_self logo)
  have lit {px py : Nat} (out : ¬ (38 ≤ py ∧ py < 46 ∨ 130 ≤ px ∧ py < 8)) :
      branded.getPixel px py = logo.getPixel px py := changes.outside out
  obtain ⟨first, isFirst, showsFirst⟩ := version g rfl 0 'v' rfl
  obtain ⟨last, isLast, showsLast⟩ := version g rfl 5 '0' rfl
  have cells : g.cell 'v' = some ⟨15, 2⟩ ∧ g.cell '0' = some ⟨4, 3⟩ := by decide +kernel
  cases isFirst.symm.trans cells.1
  cases isLast.symm.trans cells.2
  refine ⟨done, branded, frames, ?_, ?_, ?_, ?_, ?_, ?_⟩
  · rw [lit (by decide)]
    decide +kernel
  · rw [lit (by decide)]
    decide +kernel
  · rw [lit (by decide)]
    decide +kernel
  · rw [showsFirst 0 (by decide) 0 (by decide)]
    decide +kernel
  · rw [showsFirst 2 (by decide) 2 (by decide)]
    decide +kernel
  · rw [showsLast 4 (by decide) 7 (by decide)]
    decide +kernel

end LcdCompositor.Splash
