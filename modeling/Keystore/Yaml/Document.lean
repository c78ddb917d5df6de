/-
# Documents

A document is a graph of nodes, with one node as its root.  A node is a scalar, a list or a
mapping, and has a tag; the parts of a list or a mapping are known by their numbers.  An alias
is the number of the node with its anchor, so a node may be part of several others, and even of
itself.
-/
import Keystore.Yaml.Fault
import Keystore.Yaml.Tag

namespace Keystore
namespace Yaml

/-- What a node holds. -/
inductive Content where
  | scalar (text : String)
  /-- A list of nodes. -/
  | list (items : List Nat)
  /-- A mapping of nodes to nodes. -/
  | mapping (entries : List (Nat × Nat))
deriving DecidableEq, Repr

/-- A node of a document. -/
structure Node where
  position : Position
  /-- The kind of value that it stands for. -/
  tag : Tag
  content : Content
deriving DecidableEq, Repr

namespace Node

/-- A scalar without text. -/
def empty (p : Position) : Node := ⟨p, .null, .scalar ""⟩

/-- What stands for a node that there is not. -/
def none : Node := empty ⟨0, 0⟩

/-- The entries of a mapping; another node has none. -/
def entries (n : Node) : List (Nat × Nat) :=
  match n.content with
  | .mapping entries => entries
  | _ => []

end Node

/-- Nodes by their numbers. -/
abbrev Nodes := Array Node

namespace Nodes

/-- The node with a number. -/
def node (ns : Nodes) (id : Nat) : Node := ns.getD id .none

/-- The nodes with other contents of one of them. -/
def withContent (ns : Nodes) (id : Nat) (content : Content) : Nodes :=
  ns.modify id ({ · with content })

/-- The nodes with another tag of one of them. -/
def withTag (ns : Nodes) (id : Nat) (tag : Tag) : Nodes := ns.modify id ({ · with tag })

end Nodes

/-- A document. -/
structure Document where
  nodes : Nodes
  /-- The number of the root. -/
  root : Nat
deriving DecidableEq, Repr

end Yaml
end Keystore
