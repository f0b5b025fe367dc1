/-!
# What a command line asks for

Every option of the command line may be given or not. What the line says otherwise is
the business of whoever reads it.
-/

namespace LcdCompositor

/-- What the command line asks for. -/
structure Options where
  /-- The configuration file, instead of those that are searched for. -/
  config : Option String
  logLevel : Option String
  dataDirectory : Option String
  productName : Option String
  pluginsMask : Option UInt64
  ticks : Option Nat
  realtime : Option Bool
  lockTick : Option Nat
  dumpFrame : Option String
  dumpBuffer : Option String
  hostname : Option String
  /-- Whether debug messages are wanted, whatever else is said about the log. -/
  debug : Bool
  listPlugins : Bool
  dumpConfig : Bool
deriving DecidableEq, Repr

/-- An empty command line. -/
def Options.empty : Options :=
  ⟨none, none, none, none, none, none, none, none, none, none, none, false, false, false⟩

/-- How a command line is answered that is not carried out. -/
structure Refusal where
  exitCode : Nat
  /-- What goes to the standard output. -/
  output : String
  /-- What is said about a failure. -/
  failure : Option String
deriving DecidableEq, Repr

end LcdCompositor
