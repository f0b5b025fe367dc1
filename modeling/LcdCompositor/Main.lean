import LcdCompositor.Formats

/-!
# The program

The outer layer: it copies the files that a session can touch into a tree, lets the
session run on the copy, and carries out what the session did.
-/

namespace LcdCompositor

/-- What is at a path of the file system. -/
def probe (path : String) : IO (Option Entry) := do
  try
    let bytes ← IO.FS.readBinFile path
    pure (some (.file bytes.data.toList))
  catch
    | .inappropriateType _ 21 _ => pure (some .directory)
    | _ => pure none

/-- Copies what is at a path and on the way to it. -/
def copy (tree : FileTree) (path : String) : IO FileTree := do
  let mut tree := tree
  let mut place := if path.startsWith "/" then [] else tree.workingDirectory
  let mut way := if path.startsWith "/" then "" else "."
  for name in FileTree.names path do
    place := FileTree.step place name
    way := way ++ "/" ++ name
    match ← probe way with
    | some entry => tree := tree.plant place entry
    | none => return tree
  return tree

/-- The configuration files that a command line can lead to. -/
def configPaths (e : Environment) (arguments : List String) : List String :=
  match Formats.standard.readArguments arguments with
  | .error _ => []
  | .ok o => (o.config.map ([·])).getD e.candidates

/-- The files that a session writes. -/
def writtenPaths (settings : Settings) : List String :=
  settings.dumpBuffer.toList ++ settings.dumpFrame.toList

/-- The files that a session reads or writes once its settings are known. -/
def dataPaths (settings : Settings) : List String :=
  ((Panel.splashFile :: Font.all.map (·.spec.file)).map (FileTree.join settings.dataDirectory)) ++
    writtenPaths settings

/-- The settings that a command line leads to. -/
def settingsOf (e : Environment) (arguments : List String) : Option Settings :=
  match Formats.standard.readArguments arguments with
  | .error _ => none
  | .ok o => ((Layer.load Formats.standard.readLayer o true e).toOption).map Layer.settings

/-- The surroundings of a session, with everything copied that it can touch. -/
def surroundings (arguments : List String) : IO Environment := do
  let here := FileTree.placeFrom [] (← IO.currentDir).toString
  let files := { FileTree.empty with workingDirectory := here }.plant here .directory
  let home := (← IO.getEnv "HOME").filter (!·.isEmpty)
  let bare : Environment := ⟨files, home, ← IO.getEnv "HOSTNAME"⟩
  let e := { bare with files := ← (configPaths bare arguments).foldlM copy files }
  let paths := ((settingsOf e arguments).map dataPaths).getD []
  pure { e with files := ← paths.foldlM copy e.files }

/-- Lets an event happen. -/
def happen : Event → IO Unit
  | .log r => IO.eprintln s!"[{r.level.label} keymons] {r.text}"
  | .pause milliseconds => IO.sleep milliseconds.toUInt32

/-- Writes a file that a session has changed. -/
def writeBack (before after : FileTree) (path : String) : IO Unit := do
  match (after.read path).toOption with
  | some bytes =>
    if (before.read path).toOption != some bytes then
      IO.FS.writeBinFile path ⟨bytes.toArray⟩
  | none => pure ()

end LcdCompositor

open LcdCompositor in
/-- Runs a session and ends with its exit code. -/
def main (arguments : List String) : IO UInt32 := do
  let e ← surroundings arguments
  let outcome := run .standard arguments e
  outcome.events.forM happen
  for settings in (settingsOf e arguments).toList do
    for path in writtenPaths settings do
      writeBack e.files outcome.files path
  IO.print outcome.output
  if let some text := outcome.failure then IO.eprint text
  pure outcome.exitCode.toUInt32
