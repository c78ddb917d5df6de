/-
What a lookup decides, and what it asks for.

A lookup first decides, from the files, the identity and the configuration alone, how
it is to end: it is raised out of, it fails, or it has a path to deliver.  The allocator
is asked afterwards, and in the last case only.  The two parts are told apart here.  The
first one is the *verdict*, and a lookup ends as its verdict does with the allocator in
use (`resolve_outcome`), and asks the allocator for what its verdict delivers
(`resolve_requests`).

Two paths are ever examined before the scan, the override or else the base of the
identity.  Everything about how a lookup may end is read off the verdicts on these two,
`overrideVerdict` and `searchVerdict`.
-/
import Mathlib.Data.List.Basic
import Keystore.Lookup
import Keystore.Proofs.Provider

namespace Keystore

variable {fs : FileSystem} {i : Identity} {config : LookupConfig}

/-! ## Searches -/

/-- The lookup is a search of the given root: no override is set, and the root is. -/
structure LookupConfig.Searches (config : LookupConfig) (root : String) : Prop where
  /-- No override is set. -/
  override : nonempty? config.override = none
  /-- The root is set. -/
  root : nonempty? config.rootDirectory = some root

/-! ## Verdicts -/

/-- How a lookup is to end. -/
inductive Verdict where
  /-- It is raised out of. -/
  | raise (fault : LookupFault)
  /-- There is no directory. -/
  | fail (cause : Cause) (diagnostic : String)
  /-- The allocator is asked for the path. -/
  | deliver (path : String)
deriving DecidableEq, Repr

namespace Verdict

/-- How a lookup ends when an allocator is asked for what the verdict delivers. -/
def outcome (allocate : String → Except AllocationFault String) :
    Verdict → Except LookupFault LookupResult
  | raise fault => .error fault
  | fail cause diagnostic => .ok (.notFound cause diagnostic)
  | deliver path =>
    match allocate path with
    | .ok owned => .ok (.found owned)
    | .error (.exhausted detail) =>
      .ok (.notFound .allocationFailure (Diagnostic.allocationFailure path detail))
    | .error fault => .error (.allocator fault)

/-- The paths that an allocator is asked for. -/
def requests : Verdict → List String
  | raise _ => []
  | fail _ _ => []
  | deliver path => [path]

lemma mem_requests_iff {v : Verdict} {path : String} : path ∈ v.requests ↔ v = deliver path := by
  cases v <;> simp [requests, eq_comm]

/-- An allocator that hands out what it is asked for changes nothing about the verdict. -/
lemma outcome_eq_found_iff {allocate : String → Except AllocationFault String}
    (hallocate : ∀ path, allocate path = .ok path) {v : Verdict} {path : String} :
    v.outcome allocate = .ok (.found path) ↔ v = deliver path := by
  cases v with
  | raise fault => simp [outcome]
  | fail cause diagnostic => simp [outcome]
  | deliver path' => simp [outcome, hallocate]

end Verdict

/-- The verdict on an override. -/
def overrideVerdict (fs : FileSystem) (override : String) : Verdict :=
  match fs.isDirectory (.ofString override) with
  | .error fault => .raise (.path fault)
  | .ok false => .fail .overrideInvalid (Diagnostic.overrideInvalid override)
  | .ok true => .deliver override

/-- The verdict on the search of a base. -/
def searchVerdict (fs : FileSystem) (i : Identity) (base : Path) (policy : MatchPolicy) : Verdict :=
  match fs.isDirectory base with
  | .error fault => .raise (.path fault)
  | .ok false => .fail .baseNotFound (Diagnostic.baseMissing base i.scope)
  | .ok true =>
    match (fs.bestMatch base i.name policy).value with
    | .error fault => .fail .baseNotFound (Diagnostic.baseUnreadable base fault)
    | .ok none => .fail .noMatch (Diagnostic.noMatch base i.name policy)
    | .ok (some name) => .deliver (base.append [name]).render

/-- The verdict on a lookup. -/
def verdict (fs : FileSystem) (i : Identity) (config : LookupConfig) : Verdict :=
  match nonempty? config.override with
  | some override => overrideVerdict fs override
  | none =>
    match i.fault? with
    | some fault => .raise (.identity fault)
    | none =>
      match nonempty? config.rootDirectory with
      | none => .fail .configurationMissing Diagnostic.configurationMissing
      | some root => searchVerdict fs i (i.baseUnder root) config.policy

/-! ## A lookup follows its verdict -/

section Delivered

variable (i : Identity) (allocate : String → Except AllocationFault String) (path : String)
  (events : List Event)

lemma Resolution.delivered_outcome :
    (delivered i allocate path events).outcome = (Verdict.deliver path).outcome allocate := by
  rw [delivered, Verdict.outcome]
  rcases allocate path with (detail | detail | detail) | owned <;> rfl

lemma Resolution.delivered_requests :
    (delivered i allocate path events).requests = [path] := by
  rw [delivered]
  rcases allocate path with (detail | detail | detail) | owned <;> rfl

end Delivered

section Follows

variable (fs : FileSystem) (i : Identity) (config : LookupConfig)
  (allocate : String → Except AllocationFault String)

lemma resolveOverride_follows (override : String) :
    (resolveOverride fs i override allocate).outcome
        = (overrideVerdict fs override).outcome allocate ∧
      (resolveOverride fs i override allocate).requests
        = (overrideVerdict fs override).requests := by
  unfold resolveOverride overrideVerdict
  rcases fs.isDirectory (.ofString override) with fault | _ | _
  · exact ⟨rfl, rfl⟩
  · exact ⟨rfl, rfl⟩
  · exact ⟨Resolution.delivered_outcome .., Resolution.delivered_requests ..⟩

lemma resolveBelow_follows (base : Path) (policy : MatchPolicy) :
    (resolveBelow fs i base policy allocate).outcome
        = (searchVerdict fs i base policy).outcome allocate ∧
      (resolveBelow fs i base policy allocate).requests
        = (searchVerdict fs i base policy).requests := by
  rw [resolveBelow, searchVerdict]
  rcases fs.isDirectory base with fault | _ | _
  · exact ⟨rfl, rfl⟩
  · exact ⟨rfl, rfl⟩
  · rcases hscan : (fs.bestMatch base i.name policy).value with fault | _ | name
    · simp only [hscan]
      exact ⟨rfl, rfl⟩
    · simp only [hscan]
      exact ⟨rfl, rfl⟩
    · simp only [hscan]
      exact ⟨Resolution.delivered_outcome .., Resolution.delivered_requests ..⟩

lemma resolve_follows :
    (resolve fs i config allocate).outcome = (verdict fs i config).outcome allocate ∧
      (resolve fs i config allocate).requests = (verdict fs i config).requests := by
  rw [resolve, verdict]
  rcases nonempty? config.override with _ | override
  · rcases i.fault? with _ | fault
    · rcases nonempty? config.rootDirectory with _ | root
      · exact ⟨rfl, rfl⟩
      · exact resolveBelow_follows ..
    · exact ⟨rfl, rfl⟩
  · exact resolveOverride_follows ..

/-- **How a lookup ends.**  It ends as its verdict does with the allocator. -/
theorem resolve_outcome :
    (resolve fs i config allocate).outcome = (verdict fs i config).outcome allocate :=
  (resolve_follows fs i config allocate).1

/-- **What the allocator is asked for.**  It is what the verdict delivers, once. -/
theorem resolve_requests :
    (resolve fs i config allocate).requests = (verdict fs i config).requests :=
  (resolve_follows fs i config allocate).2

end Follows

/-! ## Which verdict it is -/

lemma verdict_of_override {override : String} (h : nonempty? config.override = some override) :
    verdict fs i config = overrideVerdict fs override := by
  rw [verdict, h]

lemma verdict_of_searches {root : String} (h : config.Searches root) (hi : i.fault? = none) :
    verdict fs i config = searchVerdict fs i (i.baseUnder root) config.policy := by
  simp only [verdict, h.override, hi, h.root]

lemma overrideVerdict_eq_deliver {override : String}
    (h : fs.isDirectory (.ofString override) = .ok true) :
    overrideVerdict fs override = .deliver override := by
  unfold overrideVerdict
  rw [h]

end Keystore
