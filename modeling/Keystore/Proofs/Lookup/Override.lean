/-
An override is the whole answer.

A lookup whose override is set looks at the override, and at nothing else: neither at the
identity nor at the root nor at the policy.  What it answers is told by the files, the
override and the allocator alone (`AnswersOverride`), so two such lookups cannot be told
apart by their answers, however much their other arguments differ.  They may differ in what
they note on the way, which names the node.

The override reaches the allocator as it is written.  It is read as a path for the question
whether it is a directory, and the text of that path, in which slashes and dots have been
dropped, is used for nothing.
-/
import Mathlib.Data.List.Basic
import Keystore.Proofs.Lookup.Coherence
import Keystore.Proofs.Provider
import Keystore.Proofs.Session.Channel

namespace Keystore

variable {fs : FileSystem} {i : Identity} {config : LookupConfig} {override : String}
  {allocate : String → Except AllocationFault String}

/-! ## Reports -/

/-- What an outcome makes a lookup report: its diagnostic, if nothing was found. -/
def reportsOf : Except LookupFault LookupResult → List String
  | .ok (.notFound _ diagnostic) => [diagnostic]
  | _ => []

/-- **What is reported can be told from the outcome.** -/
theorem resolve_reported (fs : FileSystem) (i : Identity) (config : LookupConfig)
    (allocate : String → Except AllocationFault String) :
    (resolve fs i config allocate).reported = reportsOf (resolve fs i config allocate).outcome := by
  have hexit := resolve_exit fs i config allocate
  rw [Resolution.Exits] at hexit
  generalize (resolve fs i config allocate).outcome = outcome,
    (resolve fs i config allocate).reported = reported,
    (resolve fs i config allocate).requests = requests at hexit
  cases hexit <;> rfl

/-! ## Lookups with an override -/

/-- Two lookups that a caller cannot tell apart: they come back with the same result or raise the
same fault, they report the same, and they ask the allocator for the same. -/
structure Resolution.SameAnswer (r r' : Resolution) : Prop where
  outcome : r.outcome = r'.outcome
  reported : r.reported = r'.reported
  requests : r.requests = r'.requests

/-- What a lookup answers whose override is set.  If the override leads to a directory, the
allocator is asked for it as it is written, and decides; if it leads anywhere else, or nowhere,
nothing is found; and if it cannot be examined, the fault is raised.  No identity is malformed
beside it. -/
structure Resolution.AnswersOverride (r : Resolution) (fs : FileSystem) (override : String)
    (allocate : String → Except AllocationFault String) : Prop where
  directory : fs.isDirectory (.ofString override) = .ok true →
    r.requests = [override] ∧ r.outcome = (Verdict.deliver override).outcome allocate
  elsewhere : fs.isDirectory (.ofString override) = .ok false →
    r.requests = [] ∧
      r.outcome = .ok (.notFound .overrideInvalid (Diagnostic.overrideInvalid override))
  unexamined : ∀ fault, fs.isDirectory (.ofString override) = .error fault →
    r.requests = [] ∧ r.outcome = .error (.path fault)
  reported : r.reported = reportsOf r.outcome
  accepted : ∀ fault, r.outcome ≠ .error (.identity fault)

/-- The answers are all that there is to tell. -/
lemma Resolution.AnswersOverride.same {r r' : Resolution} (h : r.AnswersOverride fs override allocate)
    (h' : r'.AnswersOverride fs override allocate) : r.SameAnswer r' := by
  have hboth : r.outcome = r'.outcome ∧ r.requests = r'.requests := by
    rcases hdir : fs.isDirectory (.ofString override) with fault | _ | _
    · obtain ⟨hrequests, houtcome⟩ := h.unexamined fault hdir
      obtain ⟨hrequests', houtcome'⟩ := h'.unexamined fault hdir
      rw [hrequests, hrequests', houtcome, houtcome']
      exact ⟨rfl, rfl⟩
    · obtain ⟨hrequests, houtcome⟩ := h.elsewhere hdir
      obtain ⟨hrequests', houtcome'⟩ := h'.elsewhere hdir
      rw [hrequests, hrequests', houtcome, houtcome']
      exact ⟨rfl, rfl⟩
    · obtain ⟨hrequests, houtcome⟩ := h.directory hdir
      obtain ⟨hrequests', houtcome'⟩ := h'.directory hdir
      rw [hrequests, hrequests', houtcome, houtcome']
      exact ⟨rfl, rfl⟩
  exact ⟨hboth.1, by rw [h.reported, h'.reported, hboth.1], hboth.2⟩

lemma overrideVerdict_eq_fail (h : fs.isDirectory (.ofString override) = .ok false) :
    overrideVerdict fs override
      = .fail .overrideInvalid (Diagnostic.overrideInvalid override) := by
  unfold overrideVerdict
  rw [h]

lemma overrideVerdict_eq_raise {fault : PathFault}
    (h : fs.isDirectory (.ofString override) = .error fault) :
    overrideVerdict fs override = .raise (.path fault) := by
  unfold overrideVerdict
  rw [h]

/-- Delivering a path raises no malformed identity. -/
lemma Verdict.deliver_outcome_ne (path : String) (fault : IdentityFault) :
    (Verdict.deliver path).outcome allocate ≠ .error (.identity fault) := by
  rw [outcome]
  rcases allocate path with (detail | detail | detail) | owned <;> simp

lemma resolve_answersOverride (fs : FileSystem) (i : Identity)
    (allocate : String → Except AllocationFault String)
    (h : nonempty? config.override = some override) :
    (resolve fs i config allocate).AnswersOverride fs override allocate := by
  have hreported := resolve_reported fs i config allocate
  have houtcome := resolve_outcome fs i config allocate
  have hrequests := resolve_requests fs i config allocate
  rw [verdict_of_override h] at houtcome hrequests
  refine ⟨fun hdir => ?_, fun hdir => ?_, fun fault hdir => ?_, hreported, fun fault => ?_⟩
  · rw [overrideVerdict_eq_deliver hdir] at houtcome hrequests
    exact ⟨hrequests, houtcome⟩
  · rw [overrideVerdict_eq_fail hdir] at houtcome hrequests
    exact ⟨hrequests, houtcome⟩
  · rw [overrideVerdict_eq_raise hdir] at houtcome hrequests
    exact ⟨hrequests, houtcome⟩
  · rw [houtcome]
    rcases hdir : fs.isDirectory (.ofString override) with pathFault | _ | _
    · simp [overrideVerdict_eq_raise hdir, Verdict.outcome]
    · simp [overrideVerdict_eq_fail hdir, Verdict.outcome]
    · rw [overrideVerdict_eq_deliver hdir]
      exact Verdict.deliver_outcome_ne override fault

/-- A secure root is looked up with the override that the provider answers. -/
lemma secureRoot_answersOverride (fs : FileSystem) (i : Identity)
    (allocate : String → Except AllocationFault String) {src : Sources} {p : Provider}
    (hne : override ≠ "") (h : p.get src "ROS_SECURITY_NODE_DIRECTORY" = some override) :
    (secureRoot fs src i p allocate).AnswersOverride fs override allocate := by
  have hset : nonempty? (p.read src).value.override = some override := by
    rw [Provider.read_override, nonempty?_eq_some_iff]
    exact ⟨h, hne⟩
  have hanswers := resolve_answersOverride fs i allocate hset
  exact ⟨hanswers.directory, hanswers.elsewhere, hanswers.unexamined, hanswers.reported,
    hanswers.accepted⟩

/-- **An override is the whole answer.**  Lookups with the same override answer the same, whatever
the identities, the roots and the policies are, and they answer what the override, the files
and the allocator say.  So do lookups of secure roots, whatever else their providers
answer; in sessions with the same files they leave the same text on the same error channel. -/
theorem resolve_override_alone (fs : FileSystem) (override : String) (hne : override ≠ "")
    (allocate : String → Except AllocationFault String) :
    (∀ i config, config.override = some override →
      (resolve fs i config allocate).AnswersOverride fs override allocate) ∧
    (∀ i i' config config', config.override = some override → config'.override = some override →
      (resolve fs i config allocate).SameAnswer (resolve fs i' config' allocate)) ∧
    (∀ src i p, p.get src "ROS_SECURITY_NODE_DIRECTORY" = some override →
      (secureRoot fs src i p allocate).AnswersOverride fs override allocate) ∧
    (∀ src src' i i' p p', p.get src "ROS_SECURITY_NODE_DIRECTORY" = some override →
      p'.get src' "ROS_SECURITY_NODE_DIRECTORY" = some override →
      (secureRoot fs src i p allocate).SameAnswer (secureRoot fs src' i' p' allocate)) ∧
    ∀ (s s' : Session) (a : Allocator) i i' (p p' : Option Provider), s.files = s'.files →
      s.lastError = s'.lastError →
      (p.getD .environment).get s.sources "ROS_SECURITY_NODE_DIRECTORY" = some override →
      (p'.getD .environment).get s'.sources "ROS_SECURITY_NODE_DIRECTORY" = some override →
      (s.ask (.secureRoot i a p)).2.value = (s'.ask (.secureRoot i' a p')).2.value ∧
        (s.ask (.secureRoot i a p)).1.lastError = (s'.ask (.secureRoot i' a p')).1.lastError := by
  have hresolve : ∀ i config, config.override = some override →
      (resolve fs i config allocate).AnswersOverride fs override allocate := fun i config h =>
    resolve_answersOverride fs i allocate (nonempty?_eq_some_iff.2 ⟨h, hne⟩)
  refine ⟨hresolve, fun i i' config config' h h' => (hresolve i config h).same (hresolve i' config' h'),
    fun src i p h => secureRoot_answersOverride fs i allocate hne h,
    fun src src' i i' p p' h h' => (secureRoot_answersOverride fs i allocate hne h).same
      (secureRoot_answersOverride fs i' allocate hne h'), ?_⟩
  intro s s' a i i' p p' hfiles herror h h'
  -- A session answers with the outcome, and its channel keeps the last report.
  have hsame := (secureRoot_answersOverride s'.files i a.allocate hne h).same
    (secureRoot_answersOverride s'.files i' a.allocate hne h')
  have hanswer : ∀ (s : Session) i (p : Option Provider), (s.ask (.secureRoot i a p)).2.value
      = Session.answerOr .ofLookup (fun result => .secureRoot result.path?)
        (secureRoot s.files s.sources i (p.getD .environment) a.allocate).outcome :=
    fun s i p => rfl
  have hchannel : ∀ (s : Session) i (p : Option Provider), (s.ask (.secureRoot i a p)).1.lastError
      = (secureRoot s.files s.sources i (p.getD .environment) a.allocate).reported.getLast?.getD
        s.lastError := fun s i p => by
    rw [Session.ask, Session.lastError_report, (s.hold_frame a _).2.2]
  rw [hanswer, hanswer, hchannel, hchannel, hfiles, hsame.outcome, hsame.reported, herror]
  exact ⟨rfl, rfl⟩

/-- An override that is written with more slashes than needed is handed to the allocator as it is,
for an identity that nobody could search for and for one whose search would succeed. -/
theorem resolve_override_alone_verbatim :
    (resolve sampleFiles ⟨"", "b"⟩ ⟨none, some "k//b/", .whole⟩
        (Allocator.pool "keys").allocate).requests = ["k//b/"] ∧
      (resolve sampleFiles ⟨"", "b"⟩ ⟨none, some "k//b/", .whole⟩
        (Allocator.pool "keys").allocate).SameAnswer
      (resolve sampleFiles ⟨"talker", "/b"⟩ ⟨some "k", some "k//b/", .beginning⟩
        (Allocator.pool "keys").allocate) := by
  obtain ⟨hanswers, hsame, -⟩ := resolve_override_alone sampleFiles "k//b/" (by decide)
    (Allocator.pool "keys").allocate
  exact ⟨((hanswers _ _ rfl).directory (by decide)).1, hsame _ _ _ _ rfl rfl⟩

end Keystore
