import LcdCompositor.Proofs.Result
import LcdCompositor.Settings
import Mathlib.Data.List.Find

/-!
# Which file settings are read from

A run reads one configuration file or none. One that the command line names has to be
there, and nothing else is tried. Otherwise the first of the usual places counts where
there is something, if they are searched at all. Whatever else is among the files, or
comes to be there, does not matter.
-/

namespace LcdCompositor

/-- The file that a run reads, or none. -/
inductive Environment.Consults (e : Environment) (o : Options) (search : Bool) :
    Option String → Prop
  /-- The command line names a file, and it is there. -/
  | named {path : String} (given : o.config = some path)
      (there : e.files.contains path = true) : Consults e o search (some path)
  /-- There is something in one of the usual places, and in none of those before it. -/
  | found {path : String} {before after : List String} (ungiven : o.config = none)
      (searching : search = true) (order : e.candidates = before ++ path :: after)
      (missing : ∀ p ∈ before, e.files.contains p = false)
      (there : e.files.contains path = true) : Consults e o search (some path)
  /-- There is nothing in the usual places, or they are not searched. -/
  | nowhere (ungiven : o.config = none)
      (missing : search = true → ∀ p ∈ e.candidates, e.files.contains p = false) :
      Consults e o search none

/-- What is set in a file. Without one nothing is. -/
def Layer.ofSource (reader : LayerReader) (files : FileTree) :
    Option String → Except SettingsFault Layer
  | some path => Layer.read reader files path
  | none => .ok Layer.empty

/-- A text is read back from its bytes. -/
theorem textOf_bytes (text : String) : textOf text.toByteArray.data.toList = .ok text := by
  rw [textOf, Array.toArray_toList, String.fromUTF8?, dif_pos text.isValidUTF8]
  rfl

/-- The lower layer of a run: what is set in the file that is read. -/
def Environment.Supplies (e : Environment) (reader : LayerReader) (o : Options) (search : Bool)
    (file : Layer) : Prop :=
  ∃ source, e.Consults o search source ∧ Layer.ofSource reader e.files source = .ok file

/-- The layers of a run in one: the line over the file over nothing at all. -/
def Options.layered (o : Options) (file : Layer) : Layer := o.override (Layer.empty.merge file)

variable {reader : LayerReader} {o : Options} {search : Bool} {e f : Environment}
  {source other : Option String} {file layer : Layer} {path : String}

namespace Environment

theorem configFile_of_named (given : o.config = some path)
    (there : e.files.contains path = true) : e.configFile o search = .ok (some path) := by
  rw [configFile, given]
  exact if_pos there

/-- A file that the command line names and that is not there is a mistake, whatever the
usual places hold. -/
theorem configFile_of_missing (given : o.config = some path)
    (missing : e.files.contains path = false) :
    e.configFile o search = .error (.invalid (.configNotFound path)) := by
  rw [configFile, given]
  exact if_neg (Bool.eq_false_iff.mp missing)

theorem configFile_of_ungiven (ungiven : o.config = none) :
    e.configFile o search = .ok (if search then e.found else none) := by
  rw [configFile, ungiven]

theorem found_eq_some_iff :
    e.found = some path ↔ e.files.contains path = true ∧
      ∃ before after, e.candidates = before ++ path :: after ∧
        ∀ p ∈ before, e.files.contains p = false := by
  simp only [found, List.find?_eq_some_iff_append, Bool.not_eq_true']

theorem found_eq_none_iff : e.found = none ↔ ∀ p ∈ e.candidates, e.files.contains p = false := by
  simp only [found, List.find?_eq_none, Bool.not_eq_true]

theorem consults_of_configFile (chosen : e.configFile o search = .ok source) :
    e.Consults o search source := by
  cases given : o.config with
  | some path =>
    cases there : e.files.contains path with
    | false => cases (configFile_of_missing given there).symm.trans chosen
    | true =>
      cases (configFile_of_named given there).symm.trans chosen
      exact .named given there
  | none =>
    cases (configFile_of_ungiven given).symm.trans chosen
    cases search with
    | false => exact .nowhere given nofun
    | true =>
      change e.Consults o true e.found
      cases result : e.found with
      | none => exact .nowhere given fun _ => found_eq_none_iff.mp result
      | some path =>
        obtain ⟨there, before, after, order, missing⟩ := found_eq_some_iff.mp result
        exact .found given rfl order missing there

theorem Consults.configFile (consults : e.Consults o search source) :
    e.configFile o search = .ok source := by
  cases consults with
  | named given there => exact configFile_of_named given there
  | found ungiven searching order missing there =>
    rw [configFile_of_ungiven ungiven, if_pos searching]
    exact congrArg Except.ok (found_eq_some_iff.mpr ⟨there, _, _, order, missing⟩)
  | nowhere ungiven missing =>
    rw [configFile_of_ungiven ungiven]
    split
    next searching => exact congrArg Except.ok (found_eq_none_iff.mpr (missing searching))
    · rfl

/-- Whether something is there shows in an attempt to read it. -/
theorem contains_congr {path : String} (same : f.files.read path = e.files.read path) :
    f.files.contains path = e.files.contains path := by
  rw [FileTree.contains, FileTree.contains, same]

/-- A search does not look behind a place where there is something. -/
theorem found_of_there {before after : List String} (order : e.candidates = before ++ path :: after)
    (there : e.files.contains path = true) :
    e.found = (before ++ [path]).find? e.files.contains := by
  have ends : ((before ++ [path]).find? e.files.contains).isSome = true :=
    List.find?_isSome.mpr ⟨path, List.mem_concat_self, there⟩
  rw [found, order, List.append_cons, List.find?_append, Option.or_of_isSome ends]

/-- What becomes of the places behind it does not change what is found. -/
theorem found_congr {before after : List String} (home : f.home = e.home)
    (order : e.candidates = before ++ path :: after) (there : e.files.contains path = true)
    (same : ∀ p ∈ before ++ [path], f.files.read p = e.files.read p) : f.found = e.found := by
  have orderToo : f.candidates = before ++ path :: after := by
    rw [← order, candidates, candidates, home]
  have thereToo := (contains_congr (same path List.mem_concat_self)).trans there
  rw [found_of_there order there, found_of_there orderToo thereToo]
  exact List.find?_congr fun p member => contains_congr (same p member)

/-- A run never reads two files. -/
theorem Consults.unique (one : e.Consults o search source) (two : e.Consults o search other) :
    source = other :=
  Except.ok.inj (one.configFile.symm.trans two.configFile)

theorem Supplies.unique {file other : Layer} (one : e.Supplies reader o search file)
    (two : e.Supplies reader o search other) : file = other := by
  obtain ⟨source, consults, read⟩ := one
  obtain ⟨_, consulted, readToo⟩ := two
  obtain rfl := consults.unique consulted
  exact Except.ok.inj (read.symm.trans readToo)

/-- A run that is not stopped by a missing file has made its choice. -/
theorem consults_or_missing (e : Environment) (o : Options) (search : Bool) :
    (∃ source, e.Consults o search source) ∨
      ∃ path, o.config = some path ∧ e.files.contains path = false := by
  cases given : o.config with
  | none => exact .inl ⟨_, consults_of_configFile (configFile_of_ungiven given)⟩
  | some path =>
    cases there : e.files.contains path with
    | true => exact .inl ⟨some path, .named given there⟩
    | false => exact .inr ⟨path, rfl, there⟩

end Environment

namespace Layer

theorem validated_eq_ok_iff {l m : Layer} : l.validated = .ok m ↔ l.invalidities = [] ∧ l = m := by
  rw [validated]
  split
  next valid => simp [valid]
  next first others broken => simp [broken]

/-- A file counts by its content alone. -/
theorem ofSource_congr (same : ∀ path ∈ source, f.files.read path = e.files.read path) :
    ofSource reader f.files source = ofSource reader e.files source := by
  cases source with
  | none => rfl
  | some path => rw [ofSource, ofSource, Layer.read, Layer.read, same path rfl]

theorem load_of_consults (consults : e.Consults o search source) :
    Layer.load reader o search e =
      (ofSource reader e.files source >>= fun file => (o.layered file).validated) := by
  rw [Layer.load, consults.configFile]
  cases source with
  | none => rfl
  | some path =>
    change (empty.merge <$> read reader e.files path >>= fun l => (o.override l).validated) =
      (read reader e.files path >>= fun file => (o.layered file).validated)
    cases read reader e.files path <;> rfl

/-- Two runs that read the same file come to the same, whatever else is among the files. -/
theorem load_congr (consults : e.Consults o search source) (consulted : f.Consults o search source)
    (same : ∀ path ∈ source, f.files.read path = e.files.read path) :
    Layer.load reader o search f = Layer.load reader o search e := by
  rw [load_of_consults consulted, load_of_consults consults, ofSource_congr same]

/-- Where no file is named, nothing matters that lies behind a place with something in it. -/
theorem load_of_there {before after : List String} (ungiven : o.config = none)
    (home : f.home = e.home) (order : e.candidates = before ++ path :: after)
    (there : e.files.contains path = true)
    (same : ∀ p ∈ before ++ [path], f.files.read p = e.files.read p) :
    Layer.load reader o search f = Layer.load reader o search e := by
  have consults (g : Environment) : g.Consults o search (if search then g.found else none) :=
    Environment.consults_of_configFile (Environment.configFile_of_ungiven ungiven)
  have consulted := consults f
  rw [Environment.found_congr home order there same] at consulted
  refine load_congr (consults e) consulted fun p chosen => ?_
  cases search with
  | false => cases chosen
  | true =>
    rw [if_pos rfl, Environment.found_of_there order there] at chosen
    exact same p (List.mem_of_find?_eq_some chosen)

theorem load_of_missing (given : o.config = some path)
    (missing : e.files.contains path = false) :
    Layer.load reader o search e = .error (.invalid (.configNotFound path)) := by
  rw [Layer.load, Environment.configFile_of_missing given missing]
  rfl

/-- Once the file has been read, only the rules can stop a run. -/
theorem load_of_supplies (supplies : e.Supplies reader o search file) :
    Layer.load reader o search e = (o.layered file).validated := by
  obtain ⟨source, consults, read⟩ := supplies
  rw [load_of_consults consults, read]
  rfl

/-- What a run has accepted lies over the file that it has read. -/
theorem supplies_of_load (loaded : Layer.load reader o search e = .ok layer) :
    ∃ file, e.Supplies reader o search file ∧ layer.invalidities = [] ∧
      o.layered file = layer := by
  rcases e.consults_or_missing o search with ⟨source, consults⟩ | ⟨path, given, missing⟩
  · rw [load_of_consults consults, bind_eq_ok_iff] at loaded
    obtain ⟨file, read, valid⟩ := loaded
    obtain ⟨sound, rfl⟩ := validated_eq_ok_iff.mp valid
    exact ⟨file, ⟨source, consults, read⟩, sound, rfl⟩
  · cases (load_of_missing given missing).symm.trans loaded

end Layer

end LcdCompositor
