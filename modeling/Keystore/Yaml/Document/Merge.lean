/-
# Merging mappings into mappings

A mapping may have keys that are tagged for merging: behind such a key stands another mapping,
or a list of mappings, whose entries become entries of the mapping.  They come in front of its
own entries, so its own win; of several mappings in a list the first one wins.

A mapping that is merged has its own keys for merging taken away first.  This ends although a
mapping may be a part of itself, because each step takes one such key away for good.  The keys
that are tagged as defaults become texts on the way.
-/
import Keystore.Yaml.Document

namespace Keystore
namespace Yaml

namespace Nodes

/-- The number of keys for merging in all mappings. -/
def mergeKeys (ns : Nodes) : Nat :=
  ns.foldl (fun count n => count + n.entries.countP fun e => (ns.node e.1).tag = .merge) 0

/-- The entries of a mapping up to its first key for merging, the node behind that key, and the
entries behind it. -/
def splitAtMerge? (ns : Nodes) :
    List (Nat × Nat) → Option (List (Nat × Nat) × Nat × List (Nat × Nat))
  | [] => none
  | (key, value) :: rest =>
    if (ns.node key).tag = .merge then some ([], value, rest)
    else
      (splitAtMerge? ns rest).map fun (front, source, back) => ((key, value) :: front, source, back)

/-- Makes a text of a key that is tagged as a default. -/
def defaultAsText (ns : Nodes) (key : Nat) : Nodes :=
  if (ns.node key).tag = .default then ns.withTag key .text else ns

end Nodes

/-- A change of the nodes of a document. -/
abbrev Change := StateT Nodes (Except Fault)

/-- Finds a flaw at a node. -/
def Change.flawed {α : Type} (id : Nat) (flaw : Flaw) : Change α := do
  throw (.malformed flaw ((← get).node id).position)

/-- The entries of a mapping, after the given change of it; another node cannot be merged. -/
def entriesAfter (change : Nat → Change Unit) (id : Nat) : Change (List (Nat × Nat)) := do
  match ((← get).node id).content with
  | .mapping _ =>
    change id
    return ((← get).node id).entries
  | _ => Change.flawed id .merge

/-- The entries that a mapping or a list of mappings contributes, after the given change of
each. -/
def contributed (change : Nat → Change Unit) (source : Nat) : Change (List (Nat × Nat)) := do
  match ((← get).node source).content with
  | .list items => return (← items.mapM (entriesAfter change)).reverse.flatten
  | _ => entriesAfter change source

/-- Merges into a mapping what it asks for, behind what has been merged so far; `fuel` is at
least the number of keys for merging. -/
def flattenFrom (fuel : Nat) (merged : List (Nat × Nat)) (id : Nat) : Change Unit := do
  let ns ← get
  let entries := (ns.node id).entries
  match fuel, ns.splitAtMerge? entries with
  | fuel + 1, some (front, source, back) =>
    set (ns.withContent id (.mapping (front ++ back)))
    flattenFrom fuel (merged ++ (← contributed (flattenFrom fuel []) source)) id
  | _, _ =>
    let ns := entries.foldl (fun ns e => ns.defaultAsText e.1) ns
    set (ns.withContent id (.mapping (merged ++ entries)))

/-- Merges into a mapping what it asks for. -/
def flatten (id : Nat) : Change Unit := do flattenFrom (← get).mergeKeys [] id

end Yaml
end Keystore
