/-
# What nodes stand for

The tag of a node says what it stands for: a scalar value, or a collection of what other nodes
stand for.  A node stands for one thing, however many nodes it is a part of.

Nodes are taken up in rounds.  When a node is met, a scalar gets its value at once, and a
collection is left without parts until the next round; so a fault in an outer collection is met
before one in an inner collection, and of two on the same level the one that stands first.
-/
import Keystore.Yaml.Document.Merge
import Keystore.Yaml.ScalarText

namespace Keystore
namespace Yaml

/-- What a node stands for; the parts of a collection are known by the numbers of their
nodes. -/
inductive Part where
  | scalar (s : Scalar)
  | list (items : List Nat)
  | pairs (items : List (Nat × Nat))
  | set (members : List Scalar)
  | mapping (entries : List (Scalar × Nat))
deriving DecidableEq, Repr

/-- The collection without parts that a tag announces. -/
def Part.empty? : Tag → Option Part
  | .list => some (.list [])
  | .orderedMapping => some (.pairs [])
  | .pairs => some (.pairs [])
  | .set => some (.set [])
  | .mapping => some (.mapping [])
  | _ => none

/-- The state of finding out what nodes stand for. -/
structure Survey where
  nodes : Nodes
  /-- What the nodes that have been met stand for. -/
  parts : Array (Option Part)
  /-- The collections without parts that have been met, the last one first. -/
  waiting : List Nat := []

/-- A step of finding out what nodes stand for. -/
abbrev Find := StateT Survey (Except Fault)

namespace Find

/-- The node with a number. -/
def node (id : Nat) : Find Node := return (← get).nodes.node id

/-- Finds a flaw at a node. -/
def flawed {α : Type} (id : Nat) (flaw : Flaw) : Find α := do
  throw (.malformed flaw (← node id).position)

/-- Notes what a node stands for. -/
def note (id : Nat) (part : Part) : Find Unit :=
  modify fun s => { s with parts := s.parts.setIfInBounds id (some part) }

/-- Changes the nodes. -/
def change (c : Change Unit) : Find Unit := do
  let s ← get
  let ((), nodes) ← c.run s.nodes
  set { s with nodes }

/-! ## Scalars -/

/-- The text of a node that is tagged as a scalar.  A mapping has the text of its default; `fuel`
is the number of mappings that may be each other's defaults. -/
def text (id : Nat) : Nat → Find String
  | 0 => throw (.value .endlessDefault)
  | fuel + 1 => do
    let s ← get
    match (s.nodes.node id).content with
    | .scalar text => return text
    | .list _ => flawed id .wrongKind
    | .mapping entries =>
      match entries.find? fun e => (s.nodes.node e.1).tag = .default with
      | some (_, value) => text value fuel
      | none => flawed id .wrongKind

/-- The value that the text of a scalar has. -/
def valued (value : Except ValueFault Scalar) : Find Scalar :=
  match value with
  | .ok s => return s
  | .error fault => throw (.value fault)

/-- The value of a node that is tagged as a scalar. -/
def scalar (id : Nat) : Find Scalar := do
  let node ← node id
  let text := text id ((← get).nodes.size + 1)
  match node.tag with
  | .null => let _ ← text; return .null
  | .bool => valued ((ScalarText.truthValue (← text)).map .bool)
  | .int => valued ((ScalarText.integer (← text)).map .int)
  | .float => valued (ScalarText.number id (← text))
  | .timestamp =>
    let text ← text
    match node.content with
    | .scalar _ => valued (ScalarText.timestamp text)
    | _ => throw (.value .noMomentText)
  | .text => return .text (← text)
  | .binary =>
    match ScalarText.base64? (← text).toList with
    | some bytes => return .bytes bytes
    | none => flawed id .binary
  | _ => flawed id .unknownTag

/-! ## Collections -/

/-- Meets a node, and says what it stands for. -/
def meet (id : Nat) : Find Part := do
  match (← get).parts[id]?.join with
  | some part => return part
  | none =>
    match Part.empty? (← node id).tag with
    | some part =>
      note id part
      modify fun s => { s with waiting := id :: s.waiting }
      return part
    | none =>
      let part := .scalar (← scalar id)
      note id part
      return part

/-- The scalar value that a key stands for.  Collections are no keys. -/
def key (id : Nat) : Find Scalar := do
  match ← meet id with
  | .scalar s => return s
  | _ => flawed id .collectionAsKey

/-- The entries of a mapping, with what is merged into it. -/
def entries (id : Nat) : Find (List (Scalar × Nat)) := do
  match (← node id).content with
  | .mapping _ =>
    change (flatten id)
    (← node id).entries.foldlM (fun es e => do
      let key ← key e.1
      let _ ← meet e.2
      return Entries.insert es key e.2) []
  | _ => flawed id .wrongKind

/-- The pair that a mapping with one key is. -/
def pair (id : Nat) : Find (Nat × Nat) := do
  match (← node id).content with
  | .mapping [(key, value)] =>
    let _ ← meet key
    let _ ← meet value
    return (key, value)
  | _ => flawed id .noPair

/-- The items of a list. -/
def items (id : Nat) : Find (List Nat) := do
  match (← node id).content with
  | .list items => return items
  | _ => flawed id .wrongKind

/-- Gives a collection its parts. -/
def complete (id : Nat) : Find Unit := do
  match (← node id).tag with
  | .list =>
    let items ← items id
    items.forM fun item => do let _ ← meet item
    note id (.list items)
  | .orderedMapping | .pairs => note id (.pairs (← (← items id).mapM pair))
  | .set => note id (.set ((← entries id).map (·.1)))
  | .mapping => note id (.mapping (← entries id))
  | _ => return

/-- Gives the collections that have been met their parts, round by round; `fuel` is at least the
number of nodes. -/
def rounds : Nat → Find Unit
  | 0 => return
  | fuel + 1 => do
    let round := (← get).waiting.reverse
    if round.isEmpty then return
    modify ({ · with waiting := [] })
    round.forM complete
    rounds fuel

end Find

/-- What the nodes of a document stand for. -/
def Document.parts (d : Document) : Except Fault (Array (Option Part)) := do
  let search : Find Unit := do
    let _ ← Find.meet d.root
    Find.rounds (d.nodes.size + 1)
  let survey : Survey := { nodes := d.nodes, parts := .replicate d.nodes.size none }
  return (← search.run survey).2.parts

end Yaml
end Keystore
