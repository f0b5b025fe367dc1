import LcdCompositor.Options.CommandLine
import LcdCompositor.Session
import LcdCompositor.Settings.Document

/-!
# The formats of the program

The command line of the program, and its configuration files, which are YAML documents.
-/

namespace LcdCompositor

/-- What a document says about the settings, or what is wrong with it. -/
def readDocument : LayerReader := fun text => (Layer.ofYaml text).mapError Yaml.Defect.message

/-- The formats that the program comes with. -/
def Formats.standard : Formats where
  readArguments := fun arguments => (Options.ofArguments arguments).mapError Rejection.refusal
  readLayer := readDocument
  writeLayer := fun layer => .ok layer.toYaml

end LcdCompositor
