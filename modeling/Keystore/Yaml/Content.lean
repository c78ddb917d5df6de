/-
# What a document says

The value of a document: what its root stands for, with all its parts.  A node may be a part of
itself; its value is cut off where it would stand inside of itself.

The outermost mappings are laid open, as many levels of them as the settings of a configuration
are deep: every value in them is seen from itself inwards, without what is around it.
-/
import Keystore.Yaml.Document.Reader
import Keystore.Yaml.Part
import Keystore.Yaml.Token.Layout

namespace Keystore
namespace Yaml

/-- What stands in place of a collection inside of itself. -/
def Part.outer : Part → Value
  | .scalar s => .scalar s
  | .set members => .set members
  | .list _ => .outerList
  | .pairs _ => .outerList
  | .mapping _ => .outerMapping

/-- Looks up and notes the values of nodes that are nowhere cut off. -/
abbrev Recall := StateM (Array (Option Value))

namespace Recall

/-- The value of a node inside of the nodes `around` it, and whether it is nowhere cut off.
`fuel` is more than the number of nodes that are not around it. -/
def inside (parts : Array (Option Part)) : Nat → List Nat → Nat → Recall (Value × Bool)
  | 0, _, _ => return (.null, true)
  | fuel + 1, around, id => do
    match (← get)[id]?.join, parts[id]?.join with
    | some value, _ => return (value, true)
    | none, none => return (.null, true)
    | none, some part =>
      if around.contains id then return (part.outer, false)
      let inner := inside parts fuel (id :: around)
      let (value, whole) ← match part with
        | .scalar s => pure (.scalar s, true)
        | .set members => pure (.set members, true)
        | .list items => do
          let values ← items.mapM inner
          pure (.list (values.map (·.1)), values.all (·.2))
        | .pairs items => do
          let values ← items.mapM fun (a, b) => return (← inner a, ← inner b)
          pure (.list (values.map fun (a, b) => .pair a.1 b.1), values.all fun (a, b) => a.2 && b.2)
        | .mapping entries => do
          let values ← entries.mapM fun (key, id) => return (key, ← inner id)
          pure (.mapping (values.map fun (key, v) => (key, v.1)), values.all (·.2.2))
      if whole then modify (·.setIfInBounds id (some value))
      return (value, whole)

/-- The value of a node, with `levels` levels of mappings laid open. -/
def opened (parts : Array (Option Part)) (levels id : Nat) : Recall Value := do
  match levels, parts[id]?.join with
  | levels + 1, some (.mapping entries) =>
    return .mapping (← entries.mapM fun (key, id) => return (key, ← opened parts levels id))
  | _, _ => return (← inside parts (parts.size + 1) [] id).1

end Recall

/-- The levels of mappings around a setting of a configuration: the whole and a section. -/
def openLevels : Nat := 2

/-- The value of a document. -/
def Document.value (d : Document) : Except Fault Value := do
  let parts ← d.parts
  return (Recall.opened parts openLevels d.root |>.run (.replicate parts.size none)).1

/-- The value of the document in a text; a text without a document has no value. -/
def read (text : List Char) : Except Fault Value := do
  match ← Document.ofTokens? (.ofText text) with
  | some document => document.value
  | none => return .null

end Yaml
end Keystore
