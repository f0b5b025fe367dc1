import LcdCompositor.Options
import LcdCompositor.FileTree
import LcdCompositor.Fault
import LcdCompositor.Settings.Validity

/-!
# Loading settings

The configuration file is the one that the command line names, or else the first that
is found in the usual places. The settings of the command line go over those of the
file, and what results is checked as a whole. How a file is written is left to a reader
of its text.
-/

namespace LcdCompositor

/-- Why there are no settings. -/
inductive SettingsFault
  /-- The reader of a configuration file says what is wrong with it. -/
  | yaml (cause : String)
  | io (cause : IoFault)
  | invalid (cause : Invalidity)
deriving DecidableEq, Repr

namespace SettingsFault

/-- The whole message. -/
def message : SettingsFault → String
  | yaml cause => "YAML parse error: " ++ cause
  | io cause => "I/O error: " ++ cause.message
  | invalid cause => "Validation error: " ++ cause.message

/-- The messages from the outermost cause inwards. -/
def causes : SettingsFault → List String
  | yaml cause => [message (yaml cause), cause]
  | io cause => [message (io cause), cause.message]
  | invalid cause => [message (invalid cause)]

end SettingsFault

/-- What a run finds around itself. -/
structure Environment where
  files : FileTree
  /-- The home directory. -/
  home : Option String
  /-- The name that the host has given itself. -/
  hostname : Option String

namespace Environment

/-- Where configuration files are searched for, in order. -/
def candidates (e : Environment) : List String :=
  (match e.home with
    | some home =>
      [FileTree.join home ".config/keymons/config.yaml",
        FileTree.join home ".config/keymons.yaml"]
    | none => []) ++ ["keymons.yaml", "config.yaml"]

/-- The configuration file that a search finds. -/
def found (e : Environment) : Option String := e.candidates.find? e.files.contains

/-- The configuration file that is read, if any. One that the command line names has to
be there. -/
def configFile (e : Environment) (o : Options) (search : Bool) :
    Except SettingsFault (Option String) :=
  match o.config with
  | some path =>
    if e.files.contains path then .ok (some path) else .error (.invalid (.configNotFound path))
  | none => .ok (if search then e.found else none)

end Environment

namespace Options

variable (o : Options)

/-- Whether the line sets anything of the panel. -/
def anyLcd : Bool :=
  o.dataDirectory.isSome || o.productName.isSome || o.pluginsMask.isSome || o.ticks.isSome ||
    o.realtime.isSome || o.lockTick.isSome || o.dumpFrame.isSome || o.dumpBuffer.isSome

/-- Settings of the panel after those of the line have been put over them. -/
def overrideLcd (lcd : LcdLayer) : LcdLayer :=
  lcd
    |> given o.dataDirectory (fun l v => { l with dataDirectory := v })
    |> given o.productName (fun l v => { l with productName := v })
    |> given o.pluginsMask (fun l v => { l with pluginsMask := v })
    |> given o.ticks (fun l v => { l with ticks := v })
    |> given o.realtime (fun l v => { l with realtime := v })
    |> given o.lockTick (fun l v => { l with lockTick := v })
    |> given o.dumpFrame (fun l v => { l with dumpFrame := v })
    |> given o.dumpBuffer (fun l v => { l with dumpBuffer := v })

/-- A layer after the line has been put over it. The panel has settings from then on if the
line sets any, and readings come from the line with the host name alone. -/
def override (layer : Layer) : Layer :=
  let layer := given o.logLevel (fun l v => { l with logLevel := v }) layer
  let layer := if o.debug then { layer with logLevel := some "debug" } else layer
  let layer :=
    if o.anyLcd && layer.lcd.isNone then { layer with lcd := some LcdLayer.empty } else layer
  let layer := { layer with lcd := layer.lcd.map o.overrideLcd }
  match o.hostname with
  | none => layer
  | some name =>
    let sensors := layer.sensors.getD SensorLayer.empty
    { layer with sensors := some { sensors with hostname := some name } }

end Options

/-- The text in bytes. -/
def textOf (bytes : List UInt8) : Except SettingsFault String :=
  match String.fromUTF8? ⟨bytes.toArray⟩ with
  | some text => .ok text
  | none => .error (.io .notText)

/-- What reads the text of a configuration file: the layer that it holds, or what is wrong. -/
abbrev LayerReader := String → Except String Layer

namespace Layer

/-- The layer that a file holds. -/
def read (reader : LayerReader) (files : FileTree) (path : String) :
    Except SettingsFault Layer := do
  let bytes ← (files.read path).mapError SettingsFault.io
  let text ← textOf bytes
  (reader text).mapError SettingsFault.yaml

/-- A layer, unless it breaks a rule. -/
def validated (l : Layer) : Except SettingsFault Layer :=
  match l.invalidities with
  | [] => .ok l
  | first :: _ => .error (.invalid first)

/-- The layers of a run, one over the other. `search` says whether a configuration file
is searched for where the command line names none. -/
def load (reader : LayerReader) (o : Options) (search : Bool) (e : Environment) :
    Except SettingsFault Layer := do
  let layer ← match ← e.configFile o search with
    | some path => empty.merge <$> read reader e.files path
    | none => pure empty
  (o.override layer).validated

end Layer

end LcdCompositor
