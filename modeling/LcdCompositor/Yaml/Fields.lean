import LcdCompositor.Yaml.Grammar
import LcdCompositor.Yaml.Schema

/-!
# Records in documents

A record with named fields is a mapping, and what is not named keeps its default. A
void scalar is a record without any field. Each field is then read as a text, a
number or a truth value.
-/

namespace LcdCompositor.Yaml

namespace Document

/-- The text of a scalar, whatever its style and tag. -/
def text (d : Document) (node : Node) : Except Defect String := do
  match ← d.resolve node with
  | .scalar s => pure s.text
  | _ => throw .wrongShape

/-- Whether a node stands for a value of its own. Null, written plainly or not at all,
does not, unless a tag other than that of null says so. -/
def isPresent (d : Document) (node : Node) : Except Defect Bool := do
  match ← d.resolve node with
  | .scalar s =>
    if s.style != .plain then pure true
    else
      match s.tag with
      | none => pure (!s.text.isEmpty && !isNullText s.text)
      | some tag =>
        if tag != Tag.ofString "tag:yaml.org,2002:null" then pure true
        else if isNullText s.text then pure false
        else throw .wrongShape
  | _ => pure true

/-- The text of a plain scalar, or of a literal one with the tag of the wanted type. -/
def plainText (d : Document) (tag : String) (node : Node) : Except Defect String := do
  match ← d.resolve node with
  | .scalar s =>
    if s.style = .plain || (s.style = .literal && s.tag = some (Tag.ofString tag)) then
      pure s.text
    else throw .wrongShape
  | _ => throw .wrongShape

/-- A number from 0 to `limit`. -/
def natural (limit : Nat) (d : Document) (node : Node) : Except Defect Nat := do
  match readNatural limit (← d.plainText "tag:yaml.org,2002:int" node) with
  | some n => pure n
  | none => throw .wrongShape

/-- A truth value. -/
def bool (d : Document) (node : Node) : Except Defect Bool := do
  match readBool (← d.plainText "tag:yaml.org,2002:bool" node) with
  | some b => pure b
  | none => throw .wrongShape

/-- The entries of a mapping whose keys have to be texts. -/
def keyed (d : Document) (entries : List (Node × Node)) : Except Defect (List (String × Node)) :=
  entries.mapM fun (key, value) => do pure (← d.text key, value)

/-- The nodes of the fields of a record. Unknown fields are ignored, and a field given
twice is a defect. -/
def fields (d : Document) (names : List String) (node : Node) :
    Except Defect (List (String × Node)) := do
  match ← d.resolve node with
  | .mapping entries =>
    let known := (← d.keyed entries).filter fun e => names.contains e.1
    if (known.map (·.1)).eraseDups.length = known.length then pure known
    else throw .wrongShape
  | .sequence _ => throw .wrongShape
  | .scalar s => if s.isVoid then pure [] else throw .wrongShape
  | .alias _ => throw .unknownAnchor

/-- A field with a default. -/
def fieldOr {α : Type} (d : Document) (fields : List (String × Node)) (name : String)
    (read : Document → Node → Except Defect α) (other : α) : Except Defect α :=
  match fields.lookup name with
  | none => pure other
  | some node => read d node

/-- A field that can be missing or null. -/
def optionalField {α : Type} (d : Document) (fields : List (String × Node)) (name : String)
    (read : Document → Node → Except Defect α) : Except Defect (Option α) :=
  match fields.lookup name with
  | none => pure none
  | some node => do
    if ← d.isPresent node then some <$> read d node else pure none

end Document

end LcdCompositor.Yaml
