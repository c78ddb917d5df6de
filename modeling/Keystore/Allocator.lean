/-
# Allocators

The path of a lookup is handed out by an allocator.  A pool counts how often each path has been
handed out and not yet been given back.  Other allocators answer with a path of their own, or
refuse.
-/
import Keystore.Text.Quoted

namespace Keystore

/-- Why an allocator handed out nothing.  A lookup tells lack of room from everything else, and lets
everything else pass through as it is, so the other two kinds stand for whatever an allocator may
raise. -/
inductive AllocationFault where
  /-- It has run out of room. -/
  | exhausted (detail : String)
  | rejected (detail : String)
  | systemFailure (detail : String)
deriving DecidableEq, Repr

/-- What an allocator has to say about a fault. -/
def AllocationFault.message : AllocationFault → String
  | exhausted detail => detail
  | rejected detail => detail
  | systemFailure detail => detail

/-- What hands out the path of a lookup. -/
inductive Allocator where
  /-- Hands out the path itself, and nobody counts. -/
  | untracked
  /-- Hands out the path itself, and counts it in the pool of the given name. -/
  | pool (name : String)
  | refusing (fault : AllocationFault)
  /-- Hands out the path behind another text. -/
  | prepending (lead : String)
  | constant (path : String)
deriving DecidableEq, Repr

/-- What an allocator hands out for a path. -/
def Allocator.allocate : Allocator → String → Except AllocationFault String
  | untracked, path => .ok path
  | pool _, path => .ok path
  | refusing fault, _ => .error fault
  | prepending lead, path => .ok (lead ++ path)
  | constant other, _ => .ok other

/-- The paths that an allocator hands out to somebody who asks it several times. -/
def Allocator.grants (a : Allocator) (requests : List String) : List String :=
  requests.filterMap fun path => (a.allocate path).toOption

/-- The paths that a pool has handed out and not got back, with their counts. -/
structure Pool where
  counts : List (String × Nat) := []
deriving DecidableEq, Repr

/-- The path that cannot be given back to a pool because it is not held. -/
structure ReleaseFault where
  path : String
deriving DecidableEq, Repr

/-- The wording of the fault. -/
def ReleaseFault.message (f : ReleaseFault) : String :=
  "Release of a path this allocator did not produce: " ++ Quoted.text f.path

namespace Pool

/-- How often a path is held. -/
def held (p : Pool) (path : String) : Nat := (p.counts.lookup path).getD 0

/-- The number of paths that are held, counted as often as they are. -/
def outstanding (p : Pool) : Nat := (p.counts.map (·.2)).foldr (· + ·) 0

/-- Sets how often a path is held; a path that is not held is not listed. -/
def setHeld (p : Pool) (path : String) (n : Nat) : Pool :=
  let others := p.counts.filter (·.1 ≠ path)
  if n = 0 then ⟨others⟩ else ⟨(path, n) :: others⟩

/-- Counts a path that was handed out. -/
def hold (p : Pool) (path : String) : Pool := p.setHeld path (p.held path + 1)

/-- Takes a path back. -/
def release (p : Pool) (path : String) : Except ReleaseFault Pool :=
  if p.held path = 0 then .error ⟨path⟩ else .ok (p.setHeld path (p.held path - 1))

/-- A path is held as often as was set. -/
theorem held_setHeld_self (p : Pool) (path : String) (n : Nat) :
    (p.setHeld path n).held path = n := by
  have hnone : (p.counts.filter (·.1 ≠ path)).lookup path = none := by
    rw [List.lookup_eq_none_iff]
    intro e he
    have hne : e.1 ≠ path := by simpa using (List.mem_filter.1 he).2
    simpa using fun h => hne h.symm
  unfold setHeld held
  split
  · next h => rw [hnone]; simp [h]
  · rw [List.lookup_cons_self, Option.getD_some]

end Pool
end Keystore
