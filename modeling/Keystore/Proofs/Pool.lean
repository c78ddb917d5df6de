/-
What a pool counts.

A pool is seen through `Pool.held`, which says how often a path is held; `Pool.held_hold` and
`Pool.held_of_release` say what handing out and taking back do to it.  The list behind it is
kept in order (`Pool.WellKept`): no path is listed twice, and none that is not held.  So the
number of paths that are outstanding, which is read off the list, is the sum of the numbers
that are held (`Pool.WellKept.outstanding_eq`).
-/
import Mathlib.Algebra.Ring.Nat
import Mathlib.Data.List.Basic
import Mathlib.Data.List.Nodup
import Keystore.Allocator
import Keystore.Proofs.Association

namespace Keystore

namespace Pool

/-- The paths that a pool lists. -/
def paths (p : Pool) : List String := p.counts.map (·.1)

/-- A pool whose list is in order. -/
structure WellKept (p : Pool) : Prop where
  /-- Whatever is listed is held. -/
  positive : ∀ e ∈ p.counts, 0 < e.2
  /-- No path is listed twice. -/
  nodup : p.paths.Nodup

/-! ## What is held -/

lemma held_setHeld (p : Pool) (path other : String) (n : ℕ) :
    (p.setHeld path n).held other = if other = path then n else p.held other := by
  by_cases hother : other = path
  · rw [hother, held_setHeld_self, if_pos rfl]
  · have hothers : (p.counts.filter (·.1 ≠ path)).lookup other = p.counts.lookup other := by
      rw [lookup_filter_ne, if_neg hother]
    rw [if_neg hother, setHeld, held]
    split
    · rw [hothers, held]
    · rw [List.lookup_cons, beq_false_of_ne hother, hothers, held]

/-- Handing out a path counts it once more, and leaves the others alone. -/
lemma held_hold (p : Pool) (path other : String) :
    (p.hold path).held other = p.held other + if other = path then 1 else 0 := by
  rw [hold, held_setHeld]
  split
  · next h => rw [h]
  · rfl

lemma held_foldl_hold (paths : List String) (p : Pool) (path : String) :
    (paths.foldl hold p).held path = p.held path + paths.count path := by
  induction paths generalizing p with
  | nil => rfl
  | cons first rest ih =>
    rw [List.foldl_cons, ih, held_hold, List.count_cons, Nat.add_assoc, Nat.add_comm (List.count _ _)]
    by_cases h : path = first
    · simp [h]
    · have hne : first ≠ path := fun heq => h heq.symm
      simp [h, hne]

/-- A path can be given back exactly if it is held. -/
lemma exists_release_iff {p : Pool} {path : String} :
    (∃ p', p.release path = .ok p') ↔ 0 < p.held path := by
  rw [release]
  split
  · next h => simp [h]
  · next h => simpa using Nat.pos_of_ne_zero h

lemma release_of_not_held {p : Pool} {path : String} (h : p.held path = 0) :
    p.release path = .error ⟨path⟩ := by
  rw [release, if_pos h]

/-- Taking a path back counts it once less, and leaves the others alone. -/
lemma held_of_release {p p' : Pool} {path : String} (h : p.release path = .ok p') (other : String) :
    p'.held other + (if other = path then 1 else 0) = p.held other := by
  rw [release] at h
  split at h
  · cases h
  · next hheld =>
    cases h
    rw [held_setHeld]
    split
    · next heq =>
      rw [heq]
      omega
    · rfl

/-! ## The list behind it -/

lemma wellKept_empty : WellKept {} :=
  ⟨fun _ he => absurd he List.not_mem_nil, List.nodup_nil⟩

lemma WellKept.setHeld {p : Pool} (h : p.WellKept) (path : String) (n : ℕ) :
    (p.setHeld path n).WellKept := by
  have hpositive : ∀ e ∈ p.counts.filter (·.1 ≠ path), 0 < e.2 := fun e he =>
    h.positive e (List.mem_filter.1 he).1
  have hnodup : ((p.counts.filter (·.1 ≠ path)).map (·.1)).Nodup :=
    h.nodup.sublist (List.filter_sublist.map _)
  have hnew : path ∉ (p.counts.filter (·.1 ≠ path)).map (·.1) := by
    rintro hmem
    obtain ⟨e, he, heq⟩ := List.mem_map.1 hmem
    simpa [heq] using (List.mem_filter.1 he).2
  rw [Pool.setHeld]
  split
  · exact ⟨hpositive, hnodup⟩
  · next hn =>
    refine ⟨fun e he => ?_, List.nodup_cons.2 ⟨hnew, hnodup⟩⟩
    rcases List.mem_cons.1 he with rfl | he
    · exact Nat.pos_of_ne_zero hn
    · exact hpositive e he

lemma WellKept.foldl_hold {p : Pool} (h : p.WellKept) (paths : List String) :
    (paths.foldl hold p).WellKept := by
  induction paths generalizing p with
  | nil => exact h
  | cons first rest ih => exact ih (h.setHeld first _)

lemma WellKept.of_release {p p' : Pool} (h : p.WellKept) {path : String}
    (hrelease : p.release path = .ok p') : p'.WellKept := by
  rw [release] at hrelease
  split at hrelease
  · cases hrelease
  · cases hrelease
    exact h.setHeld path _

lemma WellKept.held_eq {p : Pool} (h : p.WellKept) {e : String × ℕ} (he : e ∈ p.counts) :
    p.held e.1 = e.2 := by
  rw [held, lookup_eq_some_of_mem h.nodup he, Option.getD_some]

/-- What is listed is what is held. -/
lemma WellKept.mem_paths_iff {p : Pool} (h : p.WellKept) {path : String} :
    path ∈ p.paths ↔ 0 < p.held path := by
  constructor
  · intro hmem
    obtain ⟨e, he, rfl⟩ := List.mem_map.1 hmem
    rw [h.held_eq he]
    exact h.positive e he
  · intro hheld
    rw [held] at hheld
    rcases hlookup : p.counts.lookup path with _ | n
    · rw [hlookup] at hheld
      exact absurd hheld (Nat.lt_irrefl 0)
    · obtain ⟨l₁, l₂, heq, -⟩ := List.lookup_eq_some_iff.1 hlookup
      rw [paths, heq]
      simp

/-- **What is outstanding is what is held.** -/
theorem WellKept.outstanding_eq {p : Pool} (h : p.WellKept) :
    p.outstanding = (p.paths.map p.held).sum := by
  have hheld : p.paths.map p.held = p.counts.map (·.2) := by
    rw [paths, List.map_map]
    exact List.map_congr_left fun e he => h.held_eq he
  rw [hheld, outstanding, List.sum_eq_foldr]

end Pool
end Keystore
