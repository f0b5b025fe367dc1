import LcdCompositor.GlyphSheet
import Mathlib.Data.List.Basic

/-!
# What a table of characters says

A table is any list of strings. Its rows may differ in length, it may have more of them than
the sheet has room for, and it may name a character any number of times. A sheet is made of
it if and only if the geometry of the cells is sound and every place that the table names is
on the sheet, also the places that no character keeps. The sheet then answers with the last
place of a character, row by row and from left to right in a row. A place counts characters,
however many bytes they take.

Columns and rows are kept in sixteen bits, and it is the places as they are kept that are
looked for on the sheet. No column gets lost that way: a row that is as long leaves the sheet
before. Rows without characters are not looked at, so behind 65536 of them the count starts
over, and a character is taken for one of the rows above.
-/

namespace LcdCompositor

/-- The table names the character at the cell. -/
def FontSpec.Names (spec : FontSpec) (c : Char) (cell : Cell) : Prop :=
  ∃ text, spec.rows[cell.row]? = some text ∧ text.toList[cell.column]? = some c

/-- The cell comes first when a table is read row by row. -/
def Cell.Before (a b : Cell) : Prop := a.row < b.row ∨ a.row = b.row ∧ a.column < b.column

/-- The table names the character at the cell, and not again behind it. -/
def FontSpec.NamesLast (spec : FontSpec) (c : Char) (cell : Cell) : Prop :=
  spec.Names c cell ∧ ∀ other, spec.Names c other → other = cell ∨ other.Before cell

/-- All of the cell is on a sheet of the given size. -/
def FontSpec.Holds (spec : FontSpec) (sheet : Size) (cell : Cell) : Prop :=
  (cell.column + 1) * spec.cellWidth ≤ sheet.width.toNat ∧
    (cell.row + 1) * spec.cellHeight ≤ sheet.height.toNat

/-- The cells have a width that can be cut out, a height, and shifts that leave something of
the width, and the picture has the size of the sheet. -/
def FontSpec.Geometry (spec : FontSpec) (picture : Size) : Prop :=
  (spec.cellWidth = 5 ∨ spec.cellWidth = 6 ∨ 0 < spec.cellWidth ∧ spec.cellWidth % 8 = 0) ∧
    0 < spec.cellHeight ∧ spec.leftShift + spec.extraShift < spec.cellWidth ∧
    picture = spec.sheet

theorem Cell.Before.asymm {a b : Cell} (h : a.Before b) : ¬ b.Before a := by
  unfold Before at h ⊢
  omega

/-- Numbers of a list grow along it. -/
theorem pairwise_zipIdx {α : Type} (l : List α) :
    l.zipIdx.Pairwise fun a b => a.2 < b.2 := by
  rw [← List.pairwise_map (f := Prod.snd), List.zipIdx_map_snd]
  exact List.pairwise_lt_range'

theorem Cell.kept_eq_self_iff {cell : Cell} :
    cell.kept = cell ↔ cell.column < 65536 ∧ cell.row < 65536 := by
  obtain ⟨column, row⟩ := cell
  simp only [Cell.kept, Cell.mk.injEq, Nat.mod_eq_iff_lt (show 65536 ≠ 0 by decide)]

namespace FontSpec

variable {spec : FontSpec}

/-- Each character of one row with its place. -/
def rowPlaces (row : Nat) (chars : List Char) : List (Char × Cell) :=
  chars.zipIdx.map fun (c, column) => (c, ⟨column, row⟩)

/-- Each character of the table with its place, row by row. -/
def places (spec : FontSpec) : List (Char × Cell) :=
  spec.rows.zipIdx.flatMap fun (chars, row) => rowPlaces row chars.toList

/-- The placements are the places as they are kept. -/
theorem placements_eq (spec : FontSpec) :
    spec.placements = spec.places.map (Prod.map id Cell.kept) := by
  rw [placements, places, List.map_flatMap]
  refine List.flatMap_congr fun placed _ => ?_
  dsimp only
  rw [placeRow, rowPlaces, List.map_map]
  rfl

theorem mem_rowPlaces {row : Nat} {chars : List Char} {c : Char} {cell : Cell} :
    (c, cell) ∈ rowPlaces row chars ↔ cell.row = row ∧ chars[cell.column]? = some c := by
  simp only [rowPlaces, List.mem_map, Prod.exists, Prod.mk.injEq, List.mk_mem_zipIdx_iff_getElem?]
  constructor
  · rintro ⟨c, column, named, rfl, rfl⟩
    exact ⟨rfl, named⟩
  · rintro ⟨rfl, named⟩
    exact ⟨c, cell.column, named, rfl, rfl⟩

/-- The places are what the table names. -/
theorem mem_places {c : Char} {cell : Cell} : (c, cell) ∈ spec.places ↔ spec.Names c cell := by
  simp only [places, List.mem_flatMap, Prod.exists, List.mk_mem_zipIdx_iff_getElem?,
    mem_rowPlaces]
  constructor
  · rintro ⟨text, row, found, rfl, named⟩
    exact ⟨text, found, named⟩
  · rintro ⟨text, found, named⟩
    exact ⟨text, cell.row, found, rfl, named⟩

theorem mem_placements {c : Char} {cell : Cell} :
    (c, cell) ∈ spec.placements ↔ ∃ place, spec.Names c place ∧ place.kept = cell := by
  rw [placements_eq, List.mem_map]
  constructor
  · rintro ⟨⟨_, place⟩, member, ⟨⟩⟩
    exact ⟨place, mem_places.mp member, rfl⟩
  · rintro ⟨place, named, rfl⟩
    exact ⟨(c, place), mem_places.mpr named, rfl⟩

theorem pairwise_rowPlaces (row : Nat) (chars : List Char) :
    (rowPlaces row chars).Pairwise fun a b => a.2.Before b.2 := by
  refine List.pairwise_map.mpr ((pairwise_zipIdx chars).imp fun later => ?_)
  exact .inr ⟨rfl, later⟩

/-- The places are in the order in which the table is read. -/
theorem pairwise_places (spec : FontSpec) :
    spec.places.Pairwise fun a b => a.2.Before b.2 := by
  refine List.pairwise_flatMap.mpr ⟨fun a _ => pairwise_rowPlaces _ _, ?_⟩
  refine (pairwise_zipIdx spec.rows).imp fun later a ha b hb => ?_
  have rowA := (mem_rowPlaces.mp ha).1
  have rowB := (mem_rowPlaces.mp hb).1
  exact .inl (by omega)

/-- A row that is named has only columns in front of it that are named too. -/
theorem Names.before {c : Char} {place : Cell} (named : spec.Names c place) {column : Nat}
    (before : column ≤ place.column) : ∃ d, spec.Names d ⟨column, place.row⟩ := by
  obtain ⟨text, found, here⟩ := named
  have inside := (List.getElem?_eq_some_iff.mp here).1
  exact ⟨_, text, found, List.getElem?_eq_getElem (Nat.lt_of_le_of_lt before inside)⟩

theorem fits_iff {sheet : Size} {cell : Cell} :
    spec.fits sheet cell = true ↔ spec.Holds sheet cell := by
  rw [fits, Bool.and_eq_true, decide_eq_true_iff, decide_eq_true_iff, Holds]

theorem widthSupported_iff : spec.widthSupported = true ↔
    spec.cellWidth = 5 ∨ spec.cellWidth = 6 ∨ 0 < spec.cellWidth ∧ spec.cellWidth % 8 = 0 := by
  simp only [widthSupported, Bool.or_eq_true, Bool.and_eq_true, beq_iff_eq, decide_eq_true_eq,
    or_assoc]

end FontSpec

namespace GlyphSheet

variable {picture : Bitmap} {spec : FontSpec} {g : GlyphSheet}

/-- No character lies outside if and only if the sheet holds all that the table names, as it
is kept. -/
theorem outsider_eq_none_iff {sheet : Size} :
    outsider spec sheet spec.placements = none ↔
      ∀ c place, spec.Names c place → spec.Holds sheet place.kept := by
  simp only [outsider, List.find?_eq_none, Prod.forall, FontSpec.mem_placements,
    Bool.not_eq_true', Bool.not_eq_false, FontSpec.fits_iff]
  constructor
  · exact fun inside c place named => inside c _ ⟨place, named, rfl⟩
  · rintro inside c _ ⟨place, named, rfl⟩
    exact inside c place named

/-- When a sheet is made, and which one. -/
theorem ofBitmap_eq_ok_iff : ofBitmap picture spec = .ok g ↔
    (spec.Geometry picture.size ∧
      ∀ c place, spec.Names c place → spec.Holds picture.size place.kept) ∧
    g = ⟨spec, picture, spec.placements⟩ := by
  rw [FontSpec.Geometry, ← FontSpec.widthSupported_iff, ← outsider_eq_none_iff, ofBitmap]
  constructor
  · intro made
    split at made
    · cases made
    next width =>
      split at made
      · cases made
      next geometry =>
        split at made
        · cases made
        next size =>
          split at made
          · cases made
          next inside =>
            cases made
            exact ⟨⟨⟨by simpa using width, by omega, by omega, not_not.mp size⟩, inside⟩, rfl⟩
  · rintro ⟨⟨⟨width, height, shifts, size⟩, inside⟩, rfl⟩
    have geometry :
        ¬ (spec.cellHeight = 0 ∨ spec.cellWidth ≤ spec.leftShift + spec.extraShift) := by
      omega
    rw [width, Bool.not_true, if_neg Bool.false_ne_true, if_neg geometry, if_neg (not_not.mpr size),
      inside]

/-- A sheet is made of the picture and the font that it was asked for. -/
theorem ofBitmap_eq (h : ofBitmap picture spec = .ok g) : g = ⟨spec, picture, spec.placements⟩ :=
  (ofBitmap_eq_ok_iff.mp h).2

theorem ofBitmap_of_isOk (fine : (ofBitmap picture spec).isOk = true) :
    ofBitmap picture spec = .ok ⟨spec, picture, spec.placements⟩ := by
  cases made : ofBitmap picture spec with
  | error fault =>
    rw [made] at fine
    cases fine
  | ok g => rw [ofBitmap_eq made]

/-- A character's cell is one of its places in the table. -/
theorem mem_of_lookup {l : List (Char × Cell)} {c : Char} {cell : Cell}
    (h : l.reverse.lookup c = some cell) : (c, cell) ∈ l := by
  obtain ⟨front, back, split, _⟩ := List.lookup_eq_some_iff.mp h
  have member : (c, cell) ∈ l.reverse := by
    rw [split]
    exact List.mem_append_right front List.mem_cons_self
  exact List.mem_reverse.mp member

theorem mem_of_cell {c : Char} {cell : Cell} (h : g.cell c = some cell) :
    (c, cell) ∈ g.cells := mem_of_lookup h

/-- A character that a list names is found in it. -/
theorem exists_lookup_of_mem {l : List (Char × Cell)} {c : Char} {cell : Cell}
    (member : (c, cell) ∈ l) : ∃ found, l.reverse.lookup c = some found := by
  cases here : l.reverse.lookup c with
  | some found => exact ⟨found, rfl⟩
  | none =>
    have absent := List.lookup_eq_none_iff.mp here (c, cell) (List.mem_reverse.mpr member)
    simp at absent

/-- Of the places of a character the one that comes last is found. -/
theorem lookup_eq_some_iff {l : List (Char × Cell)}
    (ordered : l.Pairwise fun a b => a.2.Before b.2) {c : Char} {cell : Cell} :
    l.reverse.lookup c = some cell ↔
      (c, cell) ∈ l ∧ ∀ other, (c, other) ∈ l → other = cell ∨ other.Before cell := by
  have last : ∀ {found}, l.reverse.lookup c = some found →
      ∀ other, (c, other) ∈ l → other = found ∨ other.Before found := by
    intro found here other member
    obtain ⟨later, earlier, split, others⟩ := List.lookup_eq_some_iff.mp here
    have order : l = earlier.reverse ++ (c, found) :: later.reverse := by
      rw [← List.reverse_reverse l, split]
      simp
    rw [order] at member ordered
    rcases List.mem_append.mp member with before | after
    · exact .inr ((List.pairwise_append.mp ordered).2.2 _ before _ List.mem_cons_self)
    · rcases List.mem_cons.mp after with same | behind
      · exact .inl (Prod.mk.inj same).2
      · have different := others _ (List.mem_reverse.mp behind)
        simp at different
  constructor
  · exact fun here => ⟨mem_of_lookup here, last here⟩
  · rintro ⟨member, latest⟩
    obtain ⟨found, here⟩ := exists_lookup_of_mem member
    rcases last here cell member with same | before
    · rw [here, same]
    · rcases latest found (mem_of_lookup here) with same | after
      · rw [here, same]
      · exact absurd after before.asymm

theorem lookup_map_kept (l : List (Char × Cell)) (c : Char) :
    (l.map (Prod.map id Cell.kept)).lookup c = (l.lookup c).map Cell.kept := by
  induction l with
  | nil => rfl
  | cons placed rest ih =>
    obtain ⟨d, cell⟩ := placed
    rw [List.map_cons, Prod.map_apply, id, List.lookup_cons, List.lookup_cons, ih]
    cases c == d <;> rfl

/-- A sheet answers with the last place of a character, as it is kept. -/
theorem cell_made (picture : Bitmap) (spec : FontSpec) (c : Char) :
    cell ⟨spec, picture, spec.placements⟩ c = (spec.places.reverse.lookup c).map Cell.kept := by
  rw [cell, FontSpec.placements_eq, ← List.map_reverse, lookup_map_kept]

theorem cell_made_eq_some_iff {c : Char} {cell : Cell} :
    GlyphSheet.cell ⟨spec, picture, spec.placements⟩ c = some cell ↔
      ∃ place, spec.NamesLast c place ∧ place.kept = cell := by
  simp only [cell_made, Option.map_eq_some_iff, lookup_eq_some_iff spec.pairwise_places,
    FontSpec.mem_places, FontSpec.NamesLast]

theorem cell_made_eq_none_iff {c : Char} :
    GlyphSheet.cell ⟨spec, picture, spec.placements⟩ c = none ↔
      ∀ place, ¬ spec.Names c place := by
  rw [cell_made, Option.map_eq_none_iff]
  constructor
  · intro absent place named
    obtain ⟨found, here⟩ := exists_lookup_of_mem (FontSpec.mem_places.mpr named)
    rw [absent] at here
    cases here
  · intro absent
    cases here : spec.places.reverse.lookup c with
    | none => rfl
    | some place => exact absurd (FontSpec.mem_places.mp (mem_of_lookup here)) (absent place)

section Kept

variable {picture : Size}

/-- A place that is on a sheet is kept as it is. -/
theorem kept_of_holds (geometry : spec.Geometry picture) {place : Cell}
    (inside : spec.Holds picture place) : place.kept = place := by
  obtain ⟨width, height, -, -⟩ := geometry
  have columns := Nat.le_trans (Nat.le_mul_of_pos_right (place.column + 1)
    (show 0 < spec.cellWidth by omega)) inside.1
  have rows := Nat.le_trans (Nat.le_mul_of_pos_right (place.row + 1) height) inside.2
  have wide := picture.width.toNat_lt
  have tall := picture.height.toNat_lt
  exact Cell.kept_eq_self_iff.mpr ⟨by omega, by omega⟩

/-- In a table of no more than 65536 rows nothing is kept on the sheet that has no place on it.
A column that does not fit into sixteen bits has the last one that does in front of it, and no
sheet is as wide as that. -/
theorem kept_of_names (geometry : spec.Geometry picture) (few : spec.rows.length ≤ 65536)
    (inside : ∀ c place, spec.Names c place → spec.Holds picture place.kept)
    {c : Char} {place : Cell} (named : spec.Names c place) : place.kept = place := by
  obtain ⟨width, -, -, -⟩ := geometry
  obtain ⟨text, found, -⟩ := id named
  have row : place.row < 65536 := Nat.lt_of_lt_of_le (List.getElem?_eq_some_iff.mp found).1 few
  refine Cell.kept_eq_self_iff.mpr ⟨?_, row⟩
  by_contra far
  obtain ⟨d, last⟩ := named.before (Nat.le_of_lt_succ (show 65535 < place.column + 1 by omega))
  have edge : (65535 + 1) * spec.cellWidth ≤ picture.width.toNat := (inside d _ last).1
  have wide := picture.width.toNat_lt
  omega

end Kept

/-- A glyph whose shifts leave something of its cell moves the pen. -/
theorem advance_pos (h : g.spec.leftShift + g.spec.extraShift < g.spec.cellWidth) (c : Char) :
    1 ≤ g.advance c := by
  simp only [advance, cellWidth]
  split <;> omega

/-- A sheet is made if and only if the geometry of its cells is sound and every place of the
table is on it as it is kept. A sheet that is made has the last place of a character as its
cell and no cell for a character that the table does not name. Each cell is on the sheet,
and every character moves the pen. In a table of no more than 65536 rows the places are kept as
they are. -/
theorem ofBitmap_table (picture : Bitmap) (spec : FontSpec) :
    ((∃ g, ofBitmap picture spec = .ok g) ↔
      spec.Geometry picture.size ∧
        ∀ c place, spec.Names c place → spec.Holds picture.size place.kept) ∧
    (∀ g, ofBitmap picture spec = .ok g →
      (∀ c cell, g.cell c = some cell ↔ ∃ place, spec.NamesLast c place ∧ place.kept = cell) ∧
      (∀ c, g.cell c = none ↔ ∀ place, ¬ spec.Names c place) ∧
      (∀ c, g.has c = true ↔ ∃ place, spec.Names c place) ∧
      (∀ c cell, g.cell c = some cell → spec.Holds picture.size cell) ∧
      ∀ c, 1 ≤ g.advance c) ∧
    (spec.rows.length ≤ 65536 →
      ((∃ g, ofBitmap picture spec = .ok g) ↔
        spec.Geometry picture.size ∧
          ∀ c place, spec.Names c place → spec.Holds picture.size place) ∧
      ∀ g, ofBitmap picture spec = .ok g → ∀ c cell,
        g.cell c = some cell ↔ spec.NamesLast c cell) := by
  have accepts : (∃ g, ofBitmap picture spec = .ok g) ↔ spec.Geometry picture.size ∧
      ∀ c place, spec.Names c place → spec.Holds picture.size place.kept := by
    simp only [ofBitmap_eq_ok_iff, exists_and_left, exists_eq, and_true]
  refine ⟨accepts, ?answers, fun few => ⟨accepts.trans ?whole, ?last⟩⟩
  case answers =>
    intro g made
    obtain ⟨⟨⟨-, -, shifts, -⟩, inside⟩, rfl⟩ := ofBitmap_eq_ok_iff.mp made
    refine ⟨fun c cell => cell_made_eq_some_iff, fun c => cell_made_eq_none_iff, fun c => ?_,
      fun c cell here => ?_, advance_pos shifts⟩
    · rw [has, Option.isSome_iff_ne_none, ne_eq, cell_made_eq_none_iff]
      simp only [not_forall, not_not]
    · obtain ⟨place, ⟨named, -⟩, rfl⟩ := cell_made_eq_some_iff.mp here
      exact inside c place named
  case whole =>
    refine and_congr_right fun geometry => ⟨fun inside c place named => ?_,
      fun inside c place named => ?_⟩
    · rw [← kept_of_names geometry few inside named]
      exact inside c place named
    · rw [kept_of_holds geometry (inside c place named)]
      exact inside c place named
  case last =>
    intro g made c cell
    obtain ⟨⟨geometry, inside⟩, rfl⟩ := ofBitmap_eq_ok_iff.mp made
    rw [cell_made_eq_some_iff]
    constructor
    · rintro ⟨place, last, rfl⟩
      rwa [kept_of_names geometry few inside last.1]
    · exact fun last => ⟨cell, last, kept_of_names geometry few inside last.1⟩

/-- A table names a letter of two bytes three times, and a digit behind it. The letter is
found at its last place and the digit in the column behind one letter. A sheet with room for
two columns is refused for a place that the letter does not keep. -/
theorem ofBitmap_table_again :
    let spec : FontSpec := ⟨"again.pbm", ⟨24, 24⟩, 6, 8, 1, 2, ["é1é", "M", "2é"]⟩
    let narrow : FontSpec := { spec with sheet := ⟨16, 24⟩ }
    let g : GlyphSheet := ⟨spec, Bitmap.dark ⟨24, 24⟩ (by decide), spec.placements⟩
    (spec.rows.length ≤ 65536 ∧ narrow.rows.length ≤ 65536) ∧
      ofBitmap (Bitmap.dark ⟨24, 24⟩ (by decide)) spec = .ok g ∧
      g.cell 'é' = some ⟨1, 2⟩ ∧
      (∀ other, spec.Names 'é' other → other = ⟨1, 2⟩ ∨ other.Before ⟨1, 2⟩) ∧
      g.cell '1' = some ⟨1, 0⟩ ∧ (∀ cell, ¬ spec.Names '3' cell) ∧ 1 ≤ g.advance 'é' ∧
      ¬ ∃ g, ofBitmap (Bitmap.dark ⟨16, 24⟩ (by decide)) narrow = .ok g := by
  intro spec narrow g
  have few : spec.rows.length ≤ 65536 ∧ narrow.rows.length ≤ 65536 := by decide
  have made : ofBitmap (Bitmap.dark ⟨24, 24⟩ (by decide)) spec = .ok g :=
    ofBitmap_of_isOk (by decide +kernel)
  obtain ⟨-, answers, whole⟩ := ofBitmap_table (Bitmap.dark ⟨24, 24⟩ (by decide)) spec
  obtain ⟨-, absent, -, -, moves⟩ := answers g made
  have letter : g.cell 'é' = some ⟨1, 2⟩ := by decide +kernel
  refine ⟨few, made, letter, (((whole few.1).2 g made 'é' ⟨1, 2⟩).mp letter).2,
    by decide +kernel, (absent '3').mp (by decide +kernel), moves 'é', ?_⟩
  intro refused
  obtain ⟨-, inside⟩ := ((ofBitmap_table _ narrow).2.2 few.2).1.mp refused
  have named : narrow.Names 'é' ⟨2, 0⟩ := ⟨"é1é", rfl, by decide +kernel⟩
  exact absurd (inside 'é' ⟨2, 0⟩ named).1 (by decide)

/-- A letter behind 65536 rows without characters is not on the sheet, and is taken for one in
the first row. -/
theorem ofBitmap_late_row :
    let spec : FontSpec := ⟨"late.pbm", ⟨8, 8⟩, 8, 8, 0, 0, List.replicate 65536 "" ++ ["A"]⟩
    let picture := Bitmap.dark ⟨8, 8⟩ (by decide)
    (spec.Names 'A' ⟨0, 65536⟩ ∧ ¬ spec.Holds picture.size ⟨0, 65536⟩) ∧
      ∃ g, ofBitmap picture spec = .ok g ∧ g.cell 'A' = some ⟨0, 0⟩ := by
  intro spec picture
  have length : (List.replicate 65536 "").length = 65536 := List.length_replicate
  have late : spec.Names 'A' ⟨0, 65536⟩ := by
    refine ⟨"A", ?_, rfl⟩
    change (List.replicate 65536 "" ++ ["A"])[65536]? = some "A"
    rw [List.getElem?_append_right (Nat.le_of_eq length), length]
    rfl
  have alone : ∀ c place, spec.Names c place → place = ⟨0, 65536⟩ := by
    rintro c ⟨column, row⟩ ⟨text, found, here⟩
    change (List.replicate 65536 "" ++ ["A"])[row]? = some text at found
    rcases Nat.lt_or_ge row 65536 with above | behind
    · rw [List.getElem?_append_left (length.symm ▸ above),
        List.getElem?_replicate_of_lt above] at found
      obtain rfl := Option.some.inj found
      cases here
    · rw [List.getElem?_append_right (length.symm ▸ behind), length] at found
      obtain ⟨row, rfl⟩ := Nat.exists_eq_add_of_le behind
      rw [Nat.add_sub_cancel_left] at found
      cases row with
      | succ row => cases found
      | zero =>
        obtain rfl := Option.some.inj found
        cases column with
        | zero => rfl
        | succ column => cases here
  refine ⟨⟨late, fun inside => absurd inside.2 (by decide)⟩, ⟨spec, picture, spec.placements⟩,
    ofBitmap_eq_ok_iff.mpr ⟨⟨⟨by decide, by decide, by decide, rfl⟩, ?_⟩, rfl⟩, ?_⟩
  · intro c place named
    obtain rfl := alone c place named
    exact ⟨by decide, by decide⟩
  · refine cell_made_eq_some_iff.mpr ⟨⟨0, 65536⟩, ⟨late, fun other named => ?_⟩, rfl⟩
    exact .inl (alone _ other named)

end GlyphSheet

end LcdCompositor
