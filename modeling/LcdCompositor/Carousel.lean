import LcdCompositor.Plugin

/-!
# The carousel

The loaded plugins take turns on the panel. Once per tick the carousel handles the
key that was pressed, decides whether the plugin on display stays or the next one
takes over, lets it redraw, and turns the frame into a report.

A tick does not fail outward. One that goes wrong is reported and yields a dark
report, so no stale image is handed out. Only a machine that stops in the middle of
a redraw ends the tick there, with the last report in place.
-/

namespace LcdCompositor

/-- The plugins in rotation and the report of the last tick. -/
structure Carousel (σ : Type) where
  plugins : List (Plugin σ)
  /-- The plugin on display. -/
  current : Nat
  /-- Ticks since the last rotation. The count stops at 65535. -/
  ticks : Nat
  locked : Bool
  report : List UInt8

/-- What a carousel tells about one of its plugins. -/
structure Properties where
  id : UInt64
  name : String
  description : String
  interval : UInt16
  budget : UInt16
deriving DecidableEq, Repr

namespace Carousel

/-- What a carousel is doing. -/
inductive State
  | vacant
  | showing (index : Nat) (locked : Bool)
deriving DecidableEq, Repr

variable {σ : Type}

/-- Sets up plugins in order and keeps those that come up. -/
def load (setting : Setting) (studio : Studio) : List (Plugin σ) → List (Plugin σ) × Studio
  | [] => ([], studio)
  | p :: rest =>
    match p.setUp setting studio with
    | (_, studio, some fault) =>
      load setting
        (studio.report .error ("plugin " ++ p.name ++ " discarded: " ++ fault.message)) rest
    | (ready, studio, none) =>
      let count := ready.screen.frames.length
      let (loaded, studio) := load setting
        (studio.report .info ("plugin " ++ p.name ++ s!" ready, {count} frame(s)")) rest
      (ready :: loaded, studio)

/-- A carousel over the plugins that come up, at the first of them. -/
def start (setting : Setting) (studio : Studio) (plugins : List (Plugin σ)) :
    Carousel σ × Studio :=
  let (loaded, studio) := load setting studio plugins
  let studio :=
    if loaded.isEmpty then studio.report .error "no plugins loaded, the LCD stays blank"
    else studio
  (⟨loaded, 0, 0, false, Report.dark⟩, studio)

/-- What the carousel is doing. -/
def state (c : Carousel σ) : State :=
  if c.plugins.isEmpty then .vacant else .showing c.current c.locked

/-- The plugin on display. -/
def active (c : Carousel σ) : Option (Plugin σ) := c.plugins[c.current]?

/-- Changes the plugin on display. -/
def onActive (c : Carousel σ) (f : Plugin σ → Plugin σ) : Carousel σ :=
  { c with plugins := c.plugins.modify c.current f }

/-- The fault of a carousel that points nowhere. -/
def astray (c : Carousel σ) : Fault := .inconsistent (.noPlugin c.current)

/-- The highest count of ticks. -/
def tickLimit : Nat := 65535

/-- Counts a tick. -/
def countTick (c : Carousel σ) : Carousel σ := { c with ticks := min (c.ticks + 1) tickLimit }

/-- The lock key locks and unlocks; a plugin that gets locked remembers it. Other
keys do nothing. -/
def handleKey (c : Carousel σ) (studio : Studio) (key : String) : Carousel σ × Studio :=
  if key = Panel.lockKey then
    if c.locked then ({ c with locked := false }, studio.report .info "plugin unlocked")
    else
      (({ c with locked := true }).onActive (·.onScreen Screen.markLocked),
        studio.report .info "plugin locked")
  else (c, studio)

/-- Looks for the next enabled plugin, `distance` places behind the current one and
at most `left` places on. Every plugin looked at forgets that it was locked. -/
def seek (mask : UInt64) (c : Carousel σ) (distance : Nat) : Nat → Carousel σ × Option Nat
  | 0 => (c, none)
  | left + 1 =>
    let index := (c.current + distance) % c.plugins.length
    let c := { c with plugins := c.plugins.modify index (·.onScreen Screen.clearLockHistory) }
    if (c.plugins[index]?).any (·.enabledBy mask) then (c, some index)
    else seek mask c (distance + 1) left

/-- Hands the display to the next enabled plugin, which starts its animation anew.
The search goes once round and ends at the plugin it came from. -/
def rotate (c : Carousel σ) (studio : Studio) (mask : UInt64) :
    Carousel σ × Studio × Option Fault :=
  match seek mask c 1 c.plugins.length with
  | (c, none) => (c, studio, some (.allDisabled mask))
  | (c, some index) =>
    let c := { c with current := index, ticks := 0 }
    let c := c.onActive (·.onScreen Screen.resetAnimation)
    let name := (c.active.map Plugin.name).getD ""
    (c, studio.report .info ("rotating to plugin " ++ name), none)

/-- One step of the animation on display. -/
def advance (c : Carousel σ) : Carousel σ × Option Fault :=
  match c.active with
  | none => (c, some c.astray)
  | some p =>
    match p.screen.advance with
    | .error fault => (c, some fault)
    | .ok screen => (c.onActive fun p => { p with screen }, none)

/-- Decides what is on display in this tick. A plugin that the mask disables gives
way even when locked. One that has used up its budget gives way too, unless it is
locked; then its count starts over. Otherwise its animation goes on. -/
def turn (c : Carousel σ) (studio : Studio) (mask : UInt64) :
    Carousel σ × Studio × Option Fault :=
  match c.active with
  | none => (c, studio, some c.astray)
  | some p =>
    if !p.enabledBy mask then rotate { c with locked := false } studio mask
    else if p.screen.tempo.budget.toNat ≤ c.ticks then
      if c.locked then
        let (c, fault) := ({ c with ticks := 0 }).advance
        (c, studio, fault)
      else rotate c studio mask
    else
      let (c, fault) := c.advance
      (c, studio, fault)

/-- Turns the frame on display into the report. -/
def encode (c : Carousel σ) : Carousel σ × Option Fault :=
  match c.active with
  | none => (c, some c.astray)
  | some p =>
    match p.screen.picture .current with
    | .error fault => (c, some fault)
    | .ok frame =>
      match Report.encode c.report frame with
      | .error fault => (c, some fault)
      | .ok report => ({ c with report }, none)

/-- Lets the plugin on display redraw, puts the padlock over it, and makes the report. -/
def redraw (c : Carousel σ) (studio : Studio) : Carousel σ × Studio × Option Interruption :=
  match c.active with
  | none => (c, studio, some (.fault c.astray))
  | some p =>
    match p.refresh studio with
    | (p, studio, some interruption) => (c.onActive fun _ => p, studio, some interruption)
    | (p, studio, none) =>
      let scene := Scene.padlock ⟨p.screen, studio⟩ c.locked Padlock.column Padlock.row
      let (c, fault) := (c.onActive fun _ => { p with screen := scene.screen }).encode
      (c, scene.studio, fault.map .fault)

/-- One tick up to its interruption, if there is one. Without plugins the report is dark. -/
def compose (c : Carousel σ) (studio : Studio) (key : String) (mask : UInt64) :
    Carousel σ × Studio × Option Interruption :=
  if c.plugins.isEmpty then
    ({ c with report := List.replicate c.report.length 0 }, studio, none)
  else
    let (c, studio) := c.countTick.handleKey studio key
    match c.turn studio mask with
    | (c, studio, some fault) => (c, studio, some (.fault fault))
    | (c, studio, none) => c.redraw studio

/-- One tick: the key pressed since the last one, empty for none, and the mask of
enabled plugins. It ends where the machine stops, if it does. -/
def tick (c : Carousel σ) (studio : Studio) (key : String) (mask : UInt64) :
    Carousel σ × Studio × Option Stop :=
  match c.compose studio key mask with
  | (c, studio, none) => ({ c with report := Report.stampHeader c.report }, studio, none)
  | (c, studio, some (.fault fault)) =>
    let ticks := c.ticks
    ({ c with report := Report.stampHeader (List.replicate c.report.length 0) },
      studio.report .error (s!"tick {ticks} blanked: " ++ fault.message), none)
  | (c, studio, some (.stop stop)) => (c, studio, some stop)

/-- Unlocks, and makes the next tick rotate by using up the budget. -/
def forceNext (c : Carousel σ) : Carousel σ :=
  match c.active with
  | none => { c with locked := false }
  | some p => { c with locked := false, ticks := p.screen.tempo.budget.toNat }

/-- Whether a mask enables any loaded plugin. -/
def hasEnabled (c : Carousel σ) (mask : UInt64) : Bool := c.plugins.any (·.enabledBy mask)

/-- What is known of the loaded plugins, in order. -/
def properties (c : Carousel σ) : List Properties :=
  c.plugins.map fun p =>
    let identity := p.screen.identity
    ⟨identity.id, identity.name, identity.description,
      p.screen.tempo.interval, p.screen.tempo.budget⟩

/-- The id of the plugin on display, and zero without plugins. -/
def activeId (c : Carousel σ) : UInt64 := (c.active.map Plugin.id).getD 0

/-- The interval that the plugin on display asks for. -/
def interval (c : Carousel σ) : UInt16 :=
  (c.active.map (·.screen.tempo.interval)).getD Panel.idleInterval

/-- The frame on display, before it was turned into a report. -/
def frame (c : Carousel σ) : Option Bitmap :=
  c.active.bind fun p => (p.screen.picture .current).toOption

end Carousel

end LcdCompositor
