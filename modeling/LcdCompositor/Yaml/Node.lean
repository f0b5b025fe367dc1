import LcdCompositor.Yaml.Source
import LcdCompositor.Yaml.Token

/-!
# Nodes

The tree that a document describes. An alias stays an alias: it names what the
anchor with its number marks, which can be the node around it.
-/

namespace LcdCompositor.Yaml

/-- A scalar: its text, how it is written, and its tag if it has one. -/
structure Scalar where
  text : String
  style : Style
  tag : Option Tag
deriving DecidableEq, Repr

namespace Scalar

/-- What stands where nothing is written. -/
def void (tag : Option Tag) : Scalar := ⟨"", .plain, tag⟩

/-- Whether the scalar is nothing at all. -/
def isVoid (s : Scalar) : Bool := s.text.isEmpty && s.style = .plain

end Scalar

/-- A value of a document. -/
inductive Node
  | scalar (s : Scalar)
  | sequence (items : List Node)
  | mapping (entries : List (Node × Node))
  | alias (number : Nat)

namespace Node

/-- The node that stands where nothing is written. -/
def void : Node := .scalar (Scalar.void none)

end Node

/-- A tree with the nodes that its anchors mark. -/
structure Document where
  root : Node
  /-- The nodes by the numbers of their anchors. -/
  marked : Nat → Option Node

namespace Document

/-- A node with an alias replaced by what it names. -/
def resolve (d : Document) : Node → Except Defect Node
  | .alias number =>
    match d.marked number with
    | some node => .ok node
    | none => .error .unknownAnchor
  | node => .ok node

end Document

end LcdCompositor.Yaml
