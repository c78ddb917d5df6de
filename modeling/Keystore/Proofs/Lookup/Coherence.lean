/-
How the parts of a lookup agree.

A lookup hands back a result, may report a text to the diagnostic sink, and may ask the
allocator for a path; or it is raised out of.  There are six exits, which `Exit` lists with
all that they leave behind, and `resolve_exit` goes through the lookup once to show that there
are no others.  What a caller may conclude from one part about the others, `Coherent`, is read
off this list: a path was found exactly if nothing was reported, a failure is reported exactly
once, in the words of its own diagnostic, and whoever raises reports nothing.

The same kind of fault is treated in two ways, depending on where it comes from.  A fault of
the scan becomes a result, and so does lack of room for the path; all other faults of the
allocator, and the faults of the path that is examined first, pass through as they are.
-/
import Mathlib.Data.List.Basic
import Keystore.Proofs.Lookup.Raising
import Keystore.Proofs.Lookup.Search
import Keystore.Proofs.Session

namespace Keystore

variable {fs : FileSystem} {i : Identity} {config : LookupConfig}
  {allocate : String → Except AllocationFault String}

/-! ## Diagnostics -/

namespace Diagnostic

lemma append_ne_empty_of_left {s t : String} (h : s ≠ "") : s ++ t ≠ "" := fun heq =>
  h (String.append_eq_empty_iff.1 heq).1

lemma append_ne_empty_of_right {s t : String} (h : t ≠ "") : s ++ t ≠ "" := fun heq =>
  h (String.append_eq_empty_iff.1 heq).2

lemma overrideInvalid_ne_empty (override : String) : overrideInvalid override ≠ "" :=
  append_ne_empty_of_right (by decide)

lemma configurationMissing_ne_empty : configurationMissing ≠ "" :=
  append_ne_empty_of_right (by decide)

lemma baseMissing_ne_empty (base : Path) (scope : String) : baseMissing base scope ≠ "" :=
  append_ne_empty_of_right (by decide)

lemma baseUnreadable_ne_empty (base : Path) (fault : PathFault) : baseUnreadable base fault ≠ "" :=
  append_ne_empty_of_left (append_ne_empty_of_right (by decide))

lemma noMatch_ne_empty (base : Path) (name : String) (policy : MatchPolicy) :
    noMatch base name policy ≠ "" :=
  append_ne_empty_of_right (by decide)

lemma allocationFailure_ne_empty (path detail : String) : allocationFailure path detail ≠ "" :=
  append_ne_empty_of_left (append_ne_empty_of_right (by decide))

end Diagnostic

/-! ## The exits of a lookup -/

/-- The exits of a lookup: its outcome, what was reported, and what the allocator was asked for. -/
inductive Exit (fs : FileSystem) (i : Identity) (config : LookupConfig)
    (allocate : String → Except AllocationFault String) :
    Except LookupFault LookupResult → List String → List String → Prop where
  /-- The identity is needed, and is malformed. -/
  | malformed (hoverride : nonempty? config.override = none) {fault : IdentityFault}
    (hfault : i.fault? = some fault) : Exit fs i config allocate (.error (.identity fault)) [] []
  /-- The override, or else the base, cannot be examined. -/
  | unexamined {path : Path} (hpath : examined? i config = some path) {fault : PathFault}
    (hfault : fs.isDirectory path = .error fault) :
    Exit fs i config allocate (.error (.path fault)) [] []
  /-- There is no path to ask for. -/
  | missed {cause : Cause} (hcause : cause ≠ .allocationFailure) {diagnostic : String}
    (hdiagnostic : diagnostic ≠ "") :
    Exit fs i config allocate (.ok (.notFound cause diagnostic)) [diagnostic] []
  /-- The allocator hands out a path. -/
  | delivered {asked owned : String} (hasked : allocate asked = .ok owned) :
    Exit fs i config allocate (.ok (.found owned)) [] [asked]
  /-- The allocator has no room. -/
  | refused {asked detail : String} (hasked : allocate asked = .error (.exhausted detail)) :
    Exit fs i config allocate
      (.ok (.notFound .allocationFailure (Diagnostic.allocationFailure asked detail)))
      [Diagnostic.allocationFailure asked detail] [asked]
  /-- The allocator fails for another reason. -/
  | passedOn {asked : String} {fault : AllocationFault} (hasked : allocate asked = .error fault)
    (hfault : ∀ detail, fault ≠ .exhausted detail) :
    Exit fs i config allocate (.error (.allocator fault)) [] [asked]

/-- The exit that a course of a lookup takes. -/
abbrev Resolution.Exits (r : Resolution) (fs : FileSystem) (i : Identity) (config : LookupConfig)
    (allocate : String → Except AllocationFault String) : Prop :=
  Exit fs i config allocate r.outcome r.reported r.requests

/-- With a path to deliver, the allocator decides between three exits. -/
lemma Resolution.exits_delivered (path : String) (events : List Event) :
    (Resolution.delivered i allocate path events).Exits fs i config allocate := by
  unfold Resolution.delivered
  rcases hasked : allocate path with (detail | detail | detail) | owned
  · exact .refused hasked
  · exact .passedOn hasked (by simp)
  · exact .passedOn hasked (by simp)
  · exact .delivered hasked

lemma resolveOverride_exits {override : String} (h : nonempty? config.override = some override) :
    (resolveOverride fs i override allocate).Exits fs i config allocate := by
  have hpath : examined? i config = some (.ofString override) := by
    simp only [examined?, h]
  unfold resolveOverride
  rcases hdir : fs.isDirectory (.ofString override) with fault | _ | _
  · exact .unexamined hpath hdir
  · exact .missed (by decide) (Diagnostic.overrideInvalid_ne_empty override)
  · exact Resolution.exits_delivered ..

lemma resolveBelow_exits {root : String} (h : config.Searches root) (hi : i.fault? = none)
    (policy : MatchPolicy) :
    (resolveBelow fs i (i.baseUnder root) policy allocate).Exits fs i config allocate := by
  have hpath : examined? i config = some (i.baseUnder root) := by
    simp [examined?, h.override, hi, h.root]
  rw [resolveBelow]
  rcases hdir : fs.isDirectory (i.baseUnder root) with fault | _ | _
  · exact .unexamined hpath hdir
  · exact .missed (by decide) (Diagnostic.baseMissing_ne_empty _ _)
  · -- A fault of the scan makes a result, unlike a fault of the base itself.
    rcases hscan : (fs.bestMatch (i.baseUnder root) i.name policy).value with fault | _ | name
    · simp only [hscan]
      exact .missed (by decide) (Diagnostic.baseUnreadable_ne_empty _ _)
    · simp only [hscan]
      exact .missed (by decide) (Diagnostic.noMatch_ne_empty _ _ _)
    · simp only [hscan]
      exact Resolution.exits_delivered ..

/-- **A lookup takes one of the six exits.** -/
theorem resolve_exit (fs : FileSystem) (i : Identity) (config : LookupConfig)
    (allocate : String → Except AllocationFault String) :
    (resolve fs i config allocate).Exits fs i config allocate := by
  rw [resolve]
  rcases hoverride : nonempty? config.override with _ | override
  · rcases hi : i.fault? with _ | fault
    · rcases hroot : nonempty? config.rootDirectory with _ | root
      · exact .missed (by decide) Diagnostic.configurationMissing_ne_empty
      · exact resolveBelow_exits ⟨hoverride, hroot⟩ hi _
    · exact .malformed hoverride hi
  · exact resolveOverride_exits hoverride

/-- **What an allocator grants is what the lookup comes back with**: the path of a result, once, and
nothing if there is none or if the lookup is raised out of. -/
lemma Exit.grants {a : Allocator} {outcome : Except LookupFault LookupResult}
    {reported requests : List String} (h : Exit fs i config a.allocate outcome reported requests) :
    a.grants requests = (outcome.toOption.bind LookupResult.path?).toList := by
  cases h with
  | delivered hasked => simp [Allocator.grants, hasked, Except.toOption, LookupResult.path?]
  | refused hasked => simp [Allocator.grants, hasked, Except.toOption, LookupResult.path?]
  | passedOn hasked _ => simp [Allocator.grants, hasked, Except.toOption]
  | _ => rfl

/-! ## What the parts say about each other -/

/-- A lookup that has found a path: nothing is reported, and the path is what the allocator handed
out, which was asked once. -/
structure Found (allocate : String → Except AllocationFault String) (result : LookupResult)
    (reported requests : List String) : Prop where
  /-- There is no cause. -/
  cause : result.cause? = none
  /-- There is no diagnostic. -/
  diagnostic : result.diagnostic = ""
  /-- Nothing is reported. -/
  reported : reported = []
  /-- The allocator was asked once, and the path is its answer. -/
  path : ∃ asked owned, requests = [asked] ∧ allocate asked = .ok owned ∧ result.path? = some owned

/-- A lookup that has found nothing: the diagnostic is reported once, and the allocator was asked
exactly if it is to blame. -/
structure Missed (allocate : String → Except AllocationFault String) (result : LookupResult)
    (reported requests : List String) : Prop where
  /-- There is no path. -/
  path : result.path? = none
  /-- There is a cause. -/
  cause : ∃ cause, result.cause? = some cause
  /-- There is a diagnostic. -/
  diagnostic : result.diagnostic ≠ ""
  /-- The diagnostic is reported, and nothing else is. -/
  reported : reported = [result.diagnostic]
  /-- The allocator was asked once at most. -/
  once : requests.length ≤ 1
  /-- It was asked exactly if it is the cause. -/
  asked_iff : requests ≠ [] ↔ result.cause? = some .allocationFailure
  /-- Then it had no room. -/
  refused : ∀ asked ∈ requests, ∃ detail, allocate asked = .error (.exhausted detail)

/-- A lookup that is raised out of by a fault: nothing is reported, and the fault is one of the
identity, of the path that is examined first, or of the allocator, which was asked once and had
another reason than lack of room. -/
structure Raised (fs : FileSystem) (i : Identity) (config : LookupConfig)
    (allocate : String → Except AllocationFault String) (fault : LookupFault)
    (reported requests : List String) : Prop where
  /-- Nothing is reported. -/
  reported : reported = []
  /-- Where the fault comes from. -/
  origin :
    (requests = [] ∧ nonempty? config.override = none ∧
      ∃ f, i.fault? = some f ∧ fault = .identity f) ∨
    (requests = [] ∧ ∃ path f, examined? i config = some path ∧ fs.isDirectory path = .error f ∧
      fault = .path f) ∨
    ∃ asked f, requests = [asked] ∧ allocate asked = .error f ∧ (∀ detail, f ≠ .exhausted detail) ∧
      fault = .allocator f

/-- What a caller may rely on, given the outcome of a lookup, what was reported, and what the
allocator was asked for. -/
structure Coherent (fs : FileSystem) (i : Identity) (config : LookupConfig)
    (allocate : String → Except AllocationFault String) (outcome : Except LookupFault LookupResult)
    (reported requests : List String) : Prop where
  /-- A result is of one of two kinds. -/
  returned : ∀ result, outcome = .ok result →
    Found allocate result reported requests ∨ Missed allocate result reported requests
  /-- It is never of both kinds. -/
  exclusive : ∀ result, ¬ (Found allocate result reported requests ∧
    Missed allocate result reported requests)
  /-- Whoever raises reports nothing. -/
  raised : ∀ fault, outcome = .error fault → Raised fs i config allocate fault reported requests
  /-- A fault of the allocator passes through, unless it is lack of room. -/
  passes : ∀ asked ∈ requests, ∀ fault, allocate asked = .error fault →
    (∀ detail, fault ≠ .exhausted detail) → outcome = .error (.allocator fault)

lemma Found.not_missed {result : LookupResult} {reported requests : List String}
    (h : Found allocate result reported requests) :
    ¬ Missed allocate result reported requests := by
  intro hmissed
  obtain ⟨cause, hcause⟩ := hmissed.cause
  rw [h.cause] at hcause
  cases hcause

/-- Every exit leaves coherent parts behind. -/
lemma Exit.coherent {outcome : Except LookupFault LookupResult} {reported requests : List String}
    (h : Exit fs i config allocate outcome reported requests) :
    Coherent fs i config allocate outcome reported requests := by
  refine ⟨?_, fun result hboth => hboth.1.not_missed hboth.2, ?_, ?_⟩
  · intro result hresult
    cases h with
    | missed hcause hdiagnostic =>
      cases hresult
      refine Or.inr ⟨rfl, ⟨_, rfl⟩, hdiagnostic, rfl, Nat.zero_le 1, ?_, by simp⟩
      simpa [LookupResult.cause?] using hcause
    | delivered hasked =>
      cases hresult
      exact Or.inl ⟨rfl, rfl, rfl, _, _, rfl, hasked, rfl⟩
    | refused hasked =>
      cases hresult
      refine Or.inr ⟨rfl, ⟨_, rfl⟩, Diagnostic.allocationFailure_ne_empty _ _, rfl, Nat.le_refl 1,
        by simp [LookupResult.cause?], fun asked hmem => ?_⟩
      rw [List.mem_singleton.1 hmem]
      exact ⟨_, hasked⟩
    | _ => cases hresult
  · intro fault hfault
    cases h with
    | malformed hoverride hi =>
      cases hfault
      exact ⟨rfl, Or.inl ⟨rfl, hoverride, _, hi, rfl⟩⟩
    | unexamined hpath hdir =>
      cases hfault
      exact ⟨rfl, Or.inr (Or.inl ⟨rfl, _, _, hpath, hdir, rfl⟩)⟩
    | passedOn hasked hother =>
      cases hfault
      exact ⟨rfl, Or.inr (Or.inr ⟨_, _, rfl, hasked, hother, rfl⟩)⟩
    | _ => cases hfault
  · intro asked hmem fault hfault hother
    cases h with
    | delivered hasked =>
      rw [List.mem_singleton.1 hmem, hasked] at hfault
      cases hfault
    | refused hasked =>
      rw [List.mem_singleton.1 hmem, hasked] at hfault
      cases hfault
      exact absurd rfl (hother _)
    | passedOn hasked _ =>
      rw [List.mem_singleton.1 hmem, hasked] at hfault
      cases hfault
      rfl
    | _ => exact absurd hmem List.not_mem_nil

/-- What the allocator would say to anything else has no part in a verdict. -/
lemma Verdict.outcome_congr {allocate' : String → Except AllocationFault String} {v : Verdict}
    (h : ∀ asked ∈ v.requests, allocate' asked = allocate asked) :
    v.outcome allocate' = v.outcome allocate := by
  cases v with
  | deliver path => rw [outcome, outcome, h path (List.mem_singleton_self path)]
  | _ => rfl

/-- **The parts of a lookup agree.**  The outcome, the reports and the requests belong to one exit,
whatever the files, the identity, the configuration and the allocator are.  The requests are all
that the lookup learns from the allocator; a fault of the path that is examined first is always
raised; and in a session no count of a pool is another one after a lookup that is raised out of. -/
theorem resolve_coherent (fs : FileSystem) (i : Identity) (config : LookupConfig)
    (allocate : String → Except AllocationFault String) :
    Coherent fs i config allocate (resolve fs i config allocate).outcome
        (resolve fs i config allocate).reported (resolve fs i config allocate).requests ∧
      (∀ allocate' : String → Except AllocationFault String,
        (∀ asked ∈ (resolve fs i config allocate).requests, allocate' asked = allocate asked) →
          (resolve fs i config allocate').outcome = (resolve fs i config allocate).outcome ∧
            (resolve fs i config allocate').requests = (resolve fs i config allocate).requests) ∧
      (∀ path fault, examined? i config = some path → fs.isDirectory path = .error fault →
        (resolve fs i config allocate).outcome = .error (.path fault)) ∧
      ∀ (s : Session) (a : Allocator) (sink : Bool) (fault : LookupFault),
        (resolve s.files i config a.allocate).outcome = .error fault →
          (s.ask (.resolve i config a sink)).2.value = .failed (.ofLookup fault) ∧
            ∀ name, (s.ask (.resolve i config a sink)).1.pool name = s.pool name := by
  refine ⟨(resolve_exit fs i config allocate).coherent, ?_, ?_, ?_⟩
  · intro allocate' hagree
    rw [resolve_requests] at hagree
    simp only [resolve_outcome, resolve_requests]
    exact ⟨Verdict.outcome_congr hagree, trivial⟩
  · intro path fault hpath hfault
    obtain ⟨hlong, rfl⟩ := FileSystem.isDirectory_eq_error_iff.1 hfault
    rw [resolve_outcome, verdict_eq_raise_iff.2 (Or.inl ⟨path, hpath, hlong, rfl⟩), Verdict.outcome]
  · intro s a sink fault hfault
    refine ⟨by rw [Session.ask, hfault]; rfl, fun name => ?_⟩
    -- Whatever the allocator was asked for, it has granted nothing.
    have hgrants := (resolve_exit s.files i config a.allocate).grants
    rw [hfault] at hgrants
    rw [Session.ask, hgrants]
    exact s.pool_hold_nil a name

/-- The fault of an allocator that is asked for an override passes through, and is not reported. -/
theorem resolve_coherent_passedOn :
    (resolve sampleFiles ⟨"", "b"⟩ ⟨none, some "k/b", .whole⟩
        (Allocator.refusing (.systemFailure "gone")).allocate).outcome
        = .error (.allocator (.systemFailure "gone")) ∧
      (resolve sampleFiles ⟨"", "b"⟩ ⟨none, some "k/b", .whole⟩
        (Allocator.refusing (.systemFailure "gone")).allocate).reported = [] := by
  have hcoherent := (resolve_coherent sampleFiles ⟨"", "b"⟩ ⟨none, some "k/b", .whole⟩
    (Allocator.refusing (.systemFailure "gone")).allocate).1
  have houtcome := hcoherent.passes "k/b" (by decide) (.systemFailure "gone") rfl (by simp)
  exact ⟨houtcome, (hcoherent.raised _ houtcome).reported⟩

end Keystore
