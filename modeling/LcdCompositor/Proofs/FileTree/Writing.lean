import LcdCompositor.FileTree

/-!
# Written files

A file that has been written is read back as it was written. Writing puts a file only
where no directory is, and a path leads through directories, so every path that led
somewhere before still leads there: the other files keep their content, and what could
be written before can be written after.
-/

namespace LcdCompositor.FileTree

variable {t after : FileTree} {place other start reached : List String} {e : Entry}
  {path elsewhere : String} {bytes content : List UInt8}

/-- A path that a file can be written to, whatever is to stand in it. -/
def Writable (t : FileTree) (path : String) : Prop :=
  ∀ bytes, ∃ after, t.write path bytes = .ok after

section Insert

theorem entry_insert_self (named : place ≠ []) : (t.insert place e).entry place = some e := by
  cases place with
  | nil => exact absurd rfl named
  | cons name rest => simp [entry, insert]

theorem entry_insert_of_ne (ne : other ≠ place) :
    (t.insert place e).entry other = t.entry other := by
  cases other with
  | nil => rfl
  | cons name rest =>
    have unequal : (name :: rest == place) = false := beq_eq_false_iff_ne.mpr ne
    simp [entry, insert, List.lookup_cons, unequal]

/-- The root is a directory. -/
theorem ne_nil_of_entry (vacant : t.entry place ≠ some .directory) : place ≠ [] := by
  rintro rfl
  exact vacant rfl

/-- A path leads where it led before, unless a directory is replaced. -/
theorem follow_insert (vacant : t.entry place ≠ some .directory) {names : List String}
    (found : t.follow start names = .ok reached) :
    (t.insert place e).follow start names = .ok reached := by
  induction names generalizing start with
  | nil => exact found
  | cons name rest ih =>
    rw [follow] at found ⊢
    by_cases here : start = place
    · subst here
      split at found
      next directory => exact absurd directory vacant
      · cases found
      · cases found
    · rw [entry_insert_of_ne here]
      split at found
      next directory => exact ih found
      · cases found
      · cases found

theorem locate_insert (vacant : t.entry place ≠ some .directory)
    (found : t.locate path = .ok reached) : (t.insert place e).locate path = .ok reached := by
  rw [locate] at found ⊢
  split at found
  · cases found
  next named =>
    rw [if_neg named]
    exact follow_insert vacant found

end Insert

section Write

theorem read_eq_ok_iff :
    t.read path = .ok bytes ↔ ∃ place, t.locate path = .ok place ∧
      asksDirectory path = false ∧ t.entry place = some (.file bytes) := by
  rw [read]
  split
  next fault lost => simp [lost]
  next place found =>
    rw [found]
    split
    next nothing => simp [nothing]
    next directory => simp [directory]
    next content there =>
      cases asks : asksDirectory path <;> simp [there]

theorem write_eq_ok_iff :
    t.write path bytes = .ok after ↔ ∃ place, t.locate path = .ok place ∧
      asksDirectory path = false ∧ t.entry place ≠ some .directory ∧
      after = t.insert place (.file bytes) := by
  rw [write]
  split
  next fault lost => simp [lost]
  next place found =>
    rw [found]
    cases asks : asksDirectory path with
    | true => simp
    | false =>
      by_cases directory : t.entry place = some .directory
      · simp [directory]
      · simpa [directory] using eq_comm

/-- A path is writable that leads to a place where no directory is, without asking for
one. -/
theorem writable_iff :
    t.Writable path ↔ ∃ place, t.locate path = .ok place ∧ asksDirectory path = false ∧
      t.entry place ≠ some .directory := by
  simp only [Writable, write_eq_ok_iff]
  constructor
  · intro writable
    obtain ⟨_, place, found, asks, vacant, -⟩ := writable []
    exact ⟨place, found, asks, vacant⟩
  · rintro ⟨place, found, asks, vacant⟩ bytes
    exact ⟨_, place, found, asks, vacant, rfl⟩

/-- A file that was written is read back. -/
theorem read_written (written : t.write path bytes = .ok after) : after.read path = .ok bytes := by
  obtain ⟨place, found, asks, vacant, rfl⟩ := write_eq_ok_iff.mp written
  have kept := entry_insert_self (t := t) (e := .file bytes) (ne_nil_of_entry vacant)
  exact read_eq_ok_iff.mpr ⟨place, locate_insert vacant found, asks, kept⟩

/-- A path that has led somewhere still leads there. -/
theorem locate_write (written : t.write path bytes = .ok after)
    (found : t.locate elsewhere = .ok place) : after.locate elsewhere = .ok place := by
  obtain ⟨target, -, -, vacant, rfl⟩ := write_eq_ok_iff.mp written
  exact locate_insert vacant found

/-- Writing a file leaves the content of every other. -/
theorem read_write_of_ne (written : t.write path bytes = .ok after)
    (ne : t.locate elsewhere ≠ t.locate path) (there : t.read elsewhere = .ok content) :
    after.read elsewhere = .ok content := by
  obtain ⟨place, found, -, vacant, rfl⟩ := write_eq_ok_iff.mp written
  obtain ⟨other, led, asks, kept⟩ := read_eq_ok_iff.mp there
  refine read_eq_ok_iff.mpr ⟨other, locate_insert vacant led, asks, ?_⟩
  rwa [entry_insert_of_ne]
  rintro rfl
  exact ne (led.trans found.symm)

/-- What could be written before can be written after. -/
theorem Writable.write (writable : t.Writable elsewhere)
    (written : t.write path bytes = .ok after) : after.Writable elsewhere := by
  obtain ⟨place, -, -, vacant, rfl⟩ := write_eq_ok_iff.mp written
  obtain ⟨other, led, asks, free⟩ := writable_iff.mp writable
  refine writable_iff.mpr ⟨other, locate_insert vacant led, asks, ?_⟩
  by_cases same : other = place
  · subst same
    simp [entry_insert_self (ne_nil_of_entry vacant)]
  · rwa [entry_insert_of_ne same]

/-- Two paths that lead to different places still do so after a file has been written
to one of them. -/
theorem locate_ne_of_write (written : t.write path bytes = .ok after)
    (writable : t.Writable elsewhere) (ne : t.locate path ≠ t.locate elsewhere) :
    after.locate path ≠ after.locate elsewhere := by
  obtain ⟨place, found, -⟩ := write_eq_ok_iff.mp written
  obtain ⟨other, led, -⟩ := writable_iff.mp writable
  rw [locate_write written found, locate_write written led, ← found, ← led]
  exact ne

end Write

end LcdCompositor.FileTree
