import LcdCompositor.Options
import LcdCompositor.Text.Integer
import LcdCompositor.Text.Quoted

/-!
# The command line

The command line is read from the left. An option that takes a value takes it from
behind an equals sign or from the next argument, unless that looks like another
option. A value that stands as an argument of its own is examined only when the next
option comes or the line ends, so an unknown argument is reported in front of it.
-/

namespace LcdCompositor

/-- Why the text behind an option is no value for it. -/
inductive ValueFault
  | mask (text : String) (cause : Text.IntegerFault)
  | count (cause : Text.IntegerFault)
  | outOfRange (n : Int) (last : Nat)
deriving DecidableEq, Repr

namespace ValueFault

/-- What is wrong with the value. -/
def message : ValueFault → String
  | mask text cause => "bad plugin mask " ++ Text.quoted text ++ ": " ++ cause.message
  | count cause => cause.message
  | outOfRange n last => s!"{n} is not in 0..={last}"

end ValueFault

/-- Why a command line is not carried out. -/
inductive Rejection
  | unknownArgument
  /-- A value is missing, empty or not one of those there are. -/
  | unusableValue
  | badValue (cause : ValueFault)
  | givenTwice
  | valueForFlag
  /-- Not a mistake: the line asks for help. -/
  | help
deriving DecidableEq, Repr

/-- How to ask for what. -/
def usage : String :=
  "\n".intercalate
    ["KeyMonS keyboard LCD compositor", "", "Usage: keymons [OPTIONS]", "", "Options:",
      "      --config <CONFIG>              Path to a YAML config file (overrides search)",
      "      --log-level <LOG_LEVEL>        off, error, warn, info, debug or trace",
      "      --data-dir <DATA_DIR>          Directory holding the font sheets and splash bitmap",
      "      --product-name <PRODUCT_NAME>  Name shown on the splash and end screens",
      "      --plugins-mask <PLUGINS_MASK>  Plugin enable mask, decimal or 0x hex",
      "      --ticks <TICKS>                Number of ticks to compose",
      "      --realtime <REALTIME>          Wait between ticks: true or false",
      "      --lock-tick <LOCK_TICK>        Press the lock key on this tick",
      "      --dump-frame <DUMP_FRAME>      Write the last frame as PBM",
      "      --dump-buffer <DUMP_BUFFER>    Write the last device buffer",
      "      --hostname <HOSTNAME>          Host name on the system monitor",
      "  -d, --debug                        Debug logging, same as --log-level debug",
      "      --list-plugins                 Print the loaded plugin table and exit",
      "      --dump-config                  Print the merged configuration and exit",
      "  -h, --help                         Print help", ""]

namespace Rejection

/-- What is wrong with the command line. -/
def message : Rejection → String
  | unknownArgument => "error: unexpected argument found\n"
  | unusableValue => "error: missing or invalid value\n"
  | badValue cause => "error: invalid value: " ++ cause.message ++ "\n"
  | givenTwice => "error: an argument cannot be used multiple times\n"
  | valueForFlag => "error: unexpected value for a flag\n"
  | help => usage

/-- Help is an answer, and everything else a mistake. -/
def refusal (r : Rejection) : Refusal :=
  match r with
  | help => ⟨0, usage, none⟩
  | _ => ⟨2, "", some r.message⟩

end Rejection

/-- The things that can be said on the command line. -/
inductive Key
  | config
  | logLevel
  | dataDirectory
  | productName
  | pluginsMask
  | ticks
  | realtime
  | lockTick
  | dumpFrame
  | dumpBuffer
  | hostname
  | debug
  | listPlugins
  | dumpConfig
  | help
deriving DecidableEq, Repr

namespace Key

def all : List Key :=
  [config, logLevel, dataDirectory, productName, pluginsMask, ticks, realtime, lockTick,
    dumpFrame, dumpBuffer, hostname, debug, listPlugins, dumpConfig, help]

/-- The long name, without its dashes. -/
def name : Key → String
  | config => "config"
  | logLevel => "log-level"
  | dataDirectory => "data-dir"
  | productName => "product-name"
  | pluginsMask => "plugins-mask"
  | ticks => "ticks"
  | realtime => "realtime"
  | lockTick => "lock-tick"
  | dumpFrame => "dump-frame"
  | dumpBuffer => "dump-buffer"
  | hostname => "hostname"
  | debug => "debug"
  | listPlugins => "list-plugins"
  | dumpConfig => "dump-config"
  | help => "help"

/-- Whether the key is complete without a value. -/
def isFlag : Key → Bool
  | debug => true
  | listPlugins => true
  | dumpConfig => true
  | help => true
  | _ => false

/-- The key with a long name. -/
def ofName (name : String) : Option Key := all.find? (·.name == name)

/-- The key with a name of one letter. -/
def ofLetter : Char → Option Key
  | 'd' => some debug
  | 'h' => some help
  | _ => none

end Key

/-- The number of a mask: in base sixteen behind a marker, and else in base ten. -/
def readMask (s : String) : Except Text.IntegerFault UInt64 :=
  let number :=
    match s.toList with
    | '0' :: 'x' :: digits => Text.readUnsigned 16 (UInt64.size - 1) (String.ofList digits)
    | '0' :: 'X' :: digits => Text.readUnsigned 16 (UInt64.size - 1) (String.ofList digits)
    | _ => Text.readUnsigned 10 (UInt64.size - 1) s
  number.map Nat.toUInt64

/-- The largest count that can be given. -/
def countLimit : Nat := UInt32.size - 1

/-- A count on the command line. Whatever is a number of 64 bits is read, so that a
negative count can be named in the message. -/
def readCount (s : String) : Except Rejection Nat :=
  match Text.readSigned 10 (Nat.pow 2 63 - 1) s with
  | .error cause => .error (.badValue (.count cause))
  | .ok n =>
    if 0 ≤ n && n ≤ countLimit then .ok n.toNat
    else .error (.badValue (.outOfRange n countLimit))

/-- A path on the command line, which must not be empty. -/
def readPath (s : String) : Except Rejection String :=
  if s.isEmpty then .error .unusableValue else .ok s

/-- A truth value on the command line. -/
def readSwitch (s : String) : Except Rejection Bool :=
  match s with
  | "true" => .ok true
  | "false" => .ok false
  | _ => .error .unusableValue

/-- Carries out a key with its value, which is empty for flags. -/
def Options.give (o : Options) (key : Key) (value : String) : Except Rejection Options := do
  match key with
  | .config => pure { o with config := some (← readPath value) }
  | .logLevel => pure { o with logLevel := some value }
  | .dataDirectory => pure { o with dataDirectory := some (← readPath value) }
  | .productName => pure { o with productName := some value }
  | .pluginsMask =>
    match readMask value with
    | .error cause => throw (.badValue (.mask value cause))
    | .ok mask => pure { o with pluginsMask := some mask }
  | .ticks => pure { o with ticks := some (← readCount value) }
  | .realtime => pure { o with realtime := some (← readSwitch value) }
  | .lockTick => pure { o with lockTick := some (← readCount value) }
  | .dumpFrame => pure { o with dumpFrame := some (← readPath value) }
  | .dumpBuffer => pure { o with dumpBuffer := some (← readPath value) }
  | .hostname => pure { o with hostname := some value }
  | .debug => pure { o with debug := true }
  | .listPlugins => pure { o with listPlugins := true }
  | .dumpConfig => pure { o with dumpConfig := true }
  | .help => throw .help

/-- A key that stands on the line, and its value once that has come. -/
structure Waiting where
  key : Key
  value : Option String
deriving DecidableEq, Repr

/-- A command line that has been read in part. -/
structure Reading where
  options : Options
  given : List Key
  waiting : Option Waiting
deriving DecidableEq, Repr

namespace Reading

/-- Nothing has been read. -/
def start : Reading := ⟨Options.empty, [], none⟩

/-- Carries out a key, unless it has been given before. -/
def give (r : Reading) (key : Key) (value : String) : Except Rejection Reading := do
  if r.given.contains key then throw .givenTwice
  pure ⟨← r.options.give key value, key :: r.given, none⟩

/-- Carries out the key that waits. -/
def settle (r : Reading) : Except Rejection Reading :=
  match r.waiting with
  | none => .ok r
  | some ⟨_, none⟩ => .error .unusableValue
  | some ⟨key, some value⟩ => r.give key value

/-- Carries out what waits, and then a key with its value. -/
def settleThenGive (r : Reading) (key : Key) (value : String) : Except Rejection Reading := do
  (← r.settle).give key value

/-- Name and value of a long option, given without its dashes. -/
def splitValue (cs : List Char) : String × Option String :=
  let value := if cs.contains '=' then some ((cs.dropWhile (· != '=')).drop 1) else none
  (String.ofList (cs.takeWhile (· != '=')), value.map String.ofList)

/-- A long option. -/
def long (r : Reading) (cs : List Char) : Except Rejection Reading :=
  let (name, value) := splitValue cs
  match Key.ofName name, value with
  | none, _ => .error .unknownArgument
  | some key, none =>
    if key.isFlag then r.settleThenGive key ""
    else r.settle.map fun r => { r with waiting := some ⟨key, none⟩ }
  | some key, some value =>
    if key.isFlag then .error .valueForFlag else r.settleThenGive key value

/-- The letters behind a single dash. -/
def short (r : Reading) : List Char → Except Rejection Reading
  | [] => .ok r
  | c :: rest =>
    match Key.ofLetter c with
    | none => .error .unknownArgument
    | some key =>
      match r.settleThenGive key "" with
      | .error rejection => .error rejection
      | .ok r => short r rest

/-- An argument that is no option has to be the value that is waited for. -/
def value (r : Reading) (text : String) : Except Rejection Reading :=
  match r.waiting with
  | some ⟨key, none⟩ => .ok { r with waiting := some ⟨key, some text⟩ }
  | _ => .error .unknownArgument

/-- One argument. A single dash is a value. -/
def argument (r : Reading) (text : String) : Except Rejection Reading :=
  match text.toList with
  | '-' :: '-' :: cs => r.long cs
  | '-' :: c :: cs => r.short (c :: cs)
  | _ => r.value text

/-- Reads on to the end. Nothing may stand behind two dashes alone. -/
def finish (r : Reading) : List String → Except Rejection Options
  | [] => r.settle.map (·.options)
  | text :: rest =>
    if text = "--" then
      if rest.isEmpty then r.settle.map (·.options) else .error .unknownArgument
    else
      match r.argument text with
      | .error rejection => .error rejection
      | .ok r => finish r rest

end Reading

/-- What a command line asks for. -/
def Options.ofArguments (arguments : List String) : Except Rejection Options :=
  Reading.start.finish arguments

end LcdCompositor
