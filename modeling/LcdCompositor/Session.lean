import LcdCompositor.Settings
import LcdCompositor.Carousel
import LcdCompositor.Plugin.Builtin

/-!
# A session

One run of the program: load the settings, set up the plugins, let the carousel turn
for the number of ticks, and write down the last report and the last frame. A
session is a function of the command line and the environment. What it does to the
world outside, in order, is a list of events. How a command line and a configuration
file are written is left to the formats that it is given.
-/

namespace LcdCompositor

/-- How command lines and configuration files are written. -/
structure Formats where
  /-- What a command line asks for. -/
  readArguments : List String → Except Refusal Options
  readLayer : LayerReader
  /-- A layer as a text, or why there is none. -/
  writeLayer : Layer → Except String String

/-- Something that a session does while it runs. -/
inductive Event
  | log (r : Record)
  /-- Waits for a number of milliseconds. -/
  | pause (milliseconds : Nat)
deriving DecidableEq, Repr

/-- How a session ends. -/
structure Outcome where
  exitCode : Nat
  /-- What goes to the standard output. -/
  output : String
  /-- What is said about a failure. -/
  failure : Option String
  events : List Event
  files : FileTree

namespace Outcome

/-- A session that ends before anything has happened. -/
def early (files : FileTree) (exitCode : Nat) (output : String) (failure : Option String) :
    Outcome := ⟨exitCode, output, failure, [], files⟩

/-- The records of the log. -/
def log (o : Outcome) : List Record :=
  o.events.filterMap fun
    | .log r => some r
    | .pause _ => none

end Outcome

/-- A failed undertaking: what was tried, and the causes from the outermost inwards. -/
structure Failure where
  undertaking : String
  causes : List String
deriving DecidableEq, Repr

namespace Failure

/-- A text whose lines after the first are indented. -/
def indented (margin text : String) : String := ("\n" ++ margin).intercalate (text.splitOn "\n")

/-- The report of a failure. A single cause is indented; several are numbered. -/
def report (f : Failure) : String :=
  let causes :=
    match f.causes with
    | [cause] => ["    " ++ indented "    " cause]
    | causes => causes.zipIdx.map fun (cause, i) =>
        Text.padLeft 5 (toString i) ++ ": " ++ indented "       " cause
  "Error: " ++ f.undertaking ++
    (if causes.isEmpty then "" else "\n\nCaused by:\n" ++ "\n".intercalate causes) ++ "\n"

end Failure

/-- The key that is pressed before each tick: the lock key once, if at all. -/
def Settings.keys (s : Settings) : List String :=
  (List.range s.ticks).map fun i => if s.lockTick = some (i + 1) then Panel.lockKey else ""

/-- A session while the carousel turns. -/
structure Stage (σ : Type) where
  carousel : Carousel σ
  studio : Studio
  /-- The latest event comes first. -/
  events : List Event
  /-- Where the machine has stopped, if it has. -/
  stop : Option Stop

namespace Stage

variable {σ : Type}

/-- Turns the records that have come up into events. -/
def collect (s : Stage σ) : Stage σ :=
  let (records, studio) := s.studio.drain
  { s with studio, events := (records.map Event.log).reverse ++ s.events }

/-- Adds a record. -/
def report (s : Stage σ) (level : Level) (text : String) : Stage σ :=
  { s with studio := s.studio.report level text }.collect

/-- Plugins set up by the settings. -/
def start (settings : Settings) (files : FileTree) (plugins : List (Plugin σ)) : Stage σ :=
  let studio : Studio := ⟨files, FontCache.empty settings.dataDirectory, []⟩
  let studio := studio.report .info s!"data directory {settings.dataDirectory}"
  let (carousel, studio) :=
    Carousel.start ⟨settings.dataDirectory, settings.productName⟩ studio plugins
  collect ⟨carousel, studio, [], none⟩

/-- Loads a font that no plugin has asked for yet, to say so if it cannot be had. -/
def tryFont (s : Stage σ) (font : Font) : Stage σ :=
  match s.studio.sheet font with
  | (.ok _, studio) => { s with studio }.collect
  | (.error fault, studio) =>
    { s with studio }.report .warn
      (s!"font {font.name} unavailable in {studio.fonts.directory}: " ++ fault.message)

/-- One tick, with the pause after it if the session runs in real time. -/
def tick (settings : Settings) (s : Stage σ) (key : String) : Stage σ :=
  let (carousel, studio, stop) := s.carousel.tick s.studio key settings.pluginsMask
  let s := { s with carousel, studio, stop }.collect
  if settings.realtime && stop.isNone then
    { s with events := .pause carousel.interval.toNat :: s.events }
  else s

/-- The ticks of a session, with the key of each, up to one in which the machine stops. -/
def play (settings : Settings) (s : Stage σ) : List String → Stage σ
  | [] => s
  | key :: keys =>
    let s := s.tick settings key
    if s.stop.isSome then s else play settings s keys

/-- Warns of a mask that leaves the panel dark. -/
def warnOfMask (settings : Settings) (s : Stage σ) : Stage σ :=
  if s.carousel.hasEnabled settings.pluginsMask then s
  else
    s.report .warn ("mask " ++ Text.hex settings.pluginsMask.toNat ++
      " enables no loaded plugin, every tick will be blank")

/-- Says how the ticks have ended. -/
def summarise (settings : Settings) (s : Stage σ) : Stage σ :=
  s.report .info (s!"{settings.ticks} tick(s) done on plugin " ++
    Text.hex s.carousel.activeId.toNat ++ if s.carousel.locked then " (locked)" else "")

/-- Writes a file and says so, or fails. -/
def save (s : Stage σ) (undertaking what path : String) (bytes : List UInt8) :
    Stage σ × Option Failure :=
  match s.studio.files.write path bytes with
  | .error fault => (s, some ⟨undertaking ++ path, [fault.message]⟩)
  | .ok files =>
    ({ s with studio := { s.studio with files } }.report .info
      (what ++ " written to " ++ path), none)

/-- Writes the last report, if it is wanted. -/
def saveReport (settings : Settings) (s : Stage σ) : Stage σ × Option Failure :=
  match settings.dumpBuffer with
  | none => (s, none)
  | some path => s.save "writing device buffer to " "device buffer" path s.carousel.report

/-- Writes the last frame, if it is wanted and there is one. -/
def saveFrame (settings : Settings) (s : Stage σ) : Stage σ × Option Failure :=
  match settings.dumpFrame, s.carousel.frame with
  | none, _ => (s, none)
  | some _, none => (s.report .warn "no plugin loaded, no frame to write", none)
  | some path, some frame => s.save "creating " "frame" path (Netpbm.write frame)

/-- Writes what is wanted: the report, and unless that fails the frame. -/
def saveAll (settings : Settings) (s : Stage σ) : Stage σ × Option Failure :=
  match s.saveReport settings with
  | (s, some failure) => (s, some failure)
  | (s, none) => s.saveFrame settings

/-- One row of the table of plugins. -/
def row (id name interval budget description : String) : String :=
  Text.padRight 18 id ++ " " ++ Text.padRight 16 name ++ " " ++ Text.padLeft 6 interval ++ " " ++
    Text.padLeft 6 budget ++ "  " ++ description ++ "\n"

/-- The table of the loaded plugins. -/
def table (s : Stage σ) : String :=
  row "id" "name" "ms" "ticks" "description" ++
    String.join (s.carousel.properties.map fun p =>
      row (Text.hexMask p.id) p.name (toString p.interval.toNat) (toString p.budget.toNat)
        p.description)

/-- The end of a session. Records that the filter of the log holds back are dropped. -/
def close (s : Stage σ) (filter : String) (exitCode : Nat) (output : String)
    (failure : Option String) : Outcome where
  exitCode := exitCode
  output := output
  failure := failure
  events := s.events.reverse.filter fun
    | .log r => r.passes filter
    | .pause _ => true
  files := s.studio.files

/-- The end of a session that has got as far as its end. -/
def finish (s : Stage σ) (filter output : String) (failure : Option Failure) : Outcome :=
  s.close filter (if failure.isSome then 1 else 0) output (failure.map Failure.report)

/-- The end of a session whose machine has stopped. -/
def abort (s : Stage σ) (filter : String) (stop : Stop) : Outcome :=
  s.close filter 101 "" (some ("stopped: " ++ stop.message ++ "\n"))

/-- What a session comes to after its ticks. If the machine has not stopped, what is wanted is
written down. -/
def conclude (settings : Settings) (filter : String) (s : Stage σ) : Outcome :=
  match s.stop with
  | some stop => s.abort filter stop
  | none =>
    let (s, failure) := (s.summarise settings).saveAll settings
    s.finish filter "" failure

end Stage

/-- A session after its settings have been loaded. -/
def runLoaded (o : Options) (layer : Layer) (e : Environment) : Outcome :=
  let settings := layer.settings
  let feed : SensorFeed := ⟨[layer.snapshot e.hostname]⟩
  let stage := Font.all.foldl Stage.tryFont (Stage.start settings e.files (builtinPlugins feed))
  if o.listPlugins then stage.finish layer.logFilter stage.table none
  else ((stage.warnOfMask settings).play settings settings.keys).conclude settings layer.logFilter

/-- A session that has no settings. -/
def Outcome.unloaded (files : FileTree) (fault : SettingsFault) : Outcome :=
  .early files 1 "" (some (Failure.report ⟨"loading configuration", fault.causes⟩))

/-- A whole session. -/
def run (formats : Formats) (arguments : List String) (e : Environment) : Outcome :=
  match formats.readArguments arguments with
  | .error refusal => .early e.files refusal.exitCode refusal.output refusal.failure
  | .ok o =>
    match Layer.load formats.readLayer o true e with
    | .error fault => .unloaded e.files fault
    | .ok layer =>
      if o.dumpConfig then
        match formats.writeLayer layer with
        | .error cause => .unloaded e.files (.yaml cause)
        | .ok text => .early e.files 0 (text ++ "\n") none
      else runLoaded o layer e

end LcdCompositor
