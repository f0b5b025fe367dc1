import LcdCompositor.Fault

/-!
# A tree of files

Files and directories under one root, with a working directory for relative
paths. Paths are resolved a name at a time, and every name is looked up in a
directory, even a dot that leads nowhere else. A slash at the end asks for a
directory, so a file can neither be read nor be written there.
-/

namespace LcdCompositor

/-- What a path can lead to. -/
inductive Entry
  | file (bytes : List UInt8)
  | directory
deriving DecidableEq, Repr

/-- Entries by the names on the way from the root. Of several entries at one
place the first counts. -/
structure FileTree where
  entries : List (List String × Entry)
  workingDirectory : List String
deriving Repr, Inhabited

namespace FileTree

/-- An empty tree. -/
def empty : FileTree := ⟨[], []⟩

/-- The entry at a place. The root is always a directory. -/
def entry (t : FileTree) : List String → Option Entry
  | [] => some .directory
  | place => t.entries.lookup place

/-- Puts an entry at a place. -/
def insert (t : FileTree) (place : List String) (e : Entry) : FileTree :=
  { t with entries := (place, e) :: t.entries }

/-- Takes away whatever is at a place. -/
def erase (t : FileTree) (place : List String) : FileTree :=
  { t with entries := t.entries.filter fun e => e.1 != place }

/-- The names in a path. Several slashes in a row count as one. -/
def names (path : String) : List String :=
  ((path.toList.splitOn '/').map String.ofList).filter (· != "")

/-- Whether a path asks for a directory by the slash at its end. -/
def asksDirectory (path : String) : Bool := path.endsWith "/"

/-- Where a name leads from a directory. A dot stays, and two dots lead to the
parent; the parent of the root is the root. -/
def step (place : List String) (name : String) : List String :=
  if name = "." then place else if name = ".." then place.dropLast else place ++ [name]

/-- The place at the end of a path that begins at another place, whatever is on
the way. -/
def placeFrom (place : List String) (path : String) : List String := (names path).foldl step place

/-- Follows names from a place, each of them through a directory. -/
def follow (t : FileTree) (place : List String) : List String → Except IoFault (List String)
  | [] => .ok place
  | name :: rest =>
    match t.entry place with
    | some .directory => follow t (step place name) rest
    | some (.file _) => .error .notADirectory
    | none => .error .notFound

/-- The place that a path names. The place itself may be vacant. -/
def locate (t : FileTree) (path : String) : Except IoFault (List String) :=
  if path = "" then .error .notFound
  else t.follow (if path.startsWith "/" then [] else t.workingDirectory) (names path)

/-- The content of a file. -/
def read (t : FileTree) (path : String) : Except IoFault (List UInt8) :=
  match t.locate path with
  | .error fault => .error fault
  | .ok place =>
    match t.entry place with
    | none => .error .notFound
    | some .directory => .error .isADirectory
    | some (.file bytes) => if asksDirectory path then .error .notADirectory else .ok bytes

/-- Whether a path leads to a file or a directory. -/
def contains (t : FileTree) (path : String) : Bool :=
  match t.read path with
  | .ok _ => true
  | .error .isADirectory => true
  | .error _ => false

/-- Creates a file or replaces its content. A slash at the end is a fault of its own,
whatever the path leads to. -/
def write (t : FileTree) (path : String) (bytes : List UInt8) : Except IoFault FileTree :=
  match t.locate path with
  | .error fault => .error fault
  | .ok place =>
    if asksDirectory path || t.entry place = some .directory then .error .isADirectory
    else .ok (t.insert place (.file bytes))

/-- Puts an entry at a place and a directory wherever one is missing on the way. -/
def plant (t : FileTree) (place : List String) (e : Entry) : FileTree :=
  let ways := (List.range place.length).map place.take
  (ways.foldl (fun t way => if (t.entry way).isNone then t.insert way .directory else t) t).insert
    place e

/-- The path of a file inside a directory. -/
def join (directory file : String) : String :=
  if file.startsWith "/" || directory.isEmpty then file
  else if directory.endsWith "/" then directory ++ file
  else directory ++ "/" ++ file

end FileTree

end LcdCompositor
