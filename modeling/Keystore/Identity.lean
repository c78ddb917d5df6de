/-
# Identities

A node is known by its name and by the namespace that it lives in.  Any two texts make an
identity; `Identity.fault?` says what is wrong with one that cannot be searched for.
-/
import Keystore.Path
import Keystore.Text.Quoted

namespace Keystore

/-- A node name together with its hierarchical namespace. -/
structure Identity where
  name : String
  /-- The namespace: a slash for the root namespace, otherwise segments after slashes. -/
  scope : String
deriving DecidableEq, Repr

/-- What makes an identity malformed. -/
inductive IdentityFault where
  | emptyName
  /-- The namespace does not start at the root. -/
  | relativeScope (scope : String)
deriving DecidableEq, Repr

/-- The wording of a fault. -/
def IdentityFault.message : IdentityFault → String
  | emptyName => "Node name must not be empty"
  | relativeScope scope => "Node namespace must start with '/': " ++ Quoted.text scope

namespace Identity

/-- The first thing that is wrong with the identity: the name is looked at before the namespace. -/
def fault? (i : Identity) : Option IdentityFault :=
  if i.name = "" then some .emptyName
  else if i.scope.toList.head? = some '/' then none
  else some (.relativeScope i.scope)

/-- Whether the identity lives in the root namespace, written as a single slash. -/
def inRootScope (i : Identity) : Bool := i.scope = "/"

/-- The segments of the namespace, from the outermost inwards. -/
def segments (i : Identity) : List String := pieces i.scope

/-- The directory whose children are candidates for the identity: the namespace's segments
are directories below the root. -/
def baseUnder (i : Identity) (root : String) : Path :=
  if i.inRootScope then Path.ofString root else (Path.ofString root).append i.segments

example : (Identity.mk "n" "/a//b/").segments = ["a", "b"] := by decide
example : ((Identity.mk "n" "/a/./b").baseUnder "k/").render = "k/a/b" := by decide

end Identity
end Keystore
