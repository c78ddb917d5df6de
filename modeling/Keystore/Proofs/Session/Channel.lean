/-
The error channel of a thread.

Three things are written to the error channel of a thread: what is put there by hand, nothing
when it is cleared, and the diagnostic of a lookup of a secure root that finds nothing
(`Turn.written?`).  A thread reads what was written last in its own course, and what happens in
other threads is not part of this course (`channel_point`).

Two facts carry this.  The channel after one step is what the step has written, or else what was
there before (`lastError_after`).  And nothing but the channel depends on the channel: two
sessions that differ in it take the same steps with the same effect on everything else
(`run_withError`), so that a thread, which starts with a channel of its own, leaves the files,
the sources and the pools as if its steps had been taken by the thread that started it.
-/
import Mathlib.Data.List.Basic
import Keystore.Proofs.Lookup.Coherence
import Keystore.Proofs.Session.Congruence

namespace Keystore

/-- The text that a turn has written to the error channel of its thread. -/
def Turn.written? (t : Turn) : Option String :=
  match t.step with
  | .setError message => some message
  | .resetError => some ""
  | .ask (.secureRoot i a p) =>
    match (secureRoot t.before.files t.before.sources i (p.getD .environment) a.allocate).outcome with
    | .ok (.notFound _ diagnostic) => some diagnostic
    | _ => none
  | _ => none

namespace Session

/-! ## What is written -/

lemma lastError_report (s : Session) (texts : List String) :
    (s.report texts).lastError = texts.getLast?.getD s.lastError := by
  rw [report]
  rcases texts.getLast? with _ | text <;> rfl

/-- A lookup of a secure root ends in one of three ways; it writes its diagnostic if it finds
nothing, and nothing otherwise. -/
lemma secureRoot_cases (s : Session) (i : Identity) (a : Allocator) (p : Option Provider) :
    (∃ cause diagnostic,
      (secureRoot s.files s.sources i (p.getD .environment) a.allocate).outcome
        = .ok (.notFound cause diagnostic) ∧
      diagnostic ≠ "" ∧ (s.ask (.secureRoot i a p)).2.value = .secureRoot none ∧
      (s.ask (.secureRoot i a p)).1.lastError = diagnostic) ∨
    (∃ path,
      (secureRoot s.files s.sources i (p.getD .environment) a.allocate).outcome
        = .ok (.found path) ∧
      (s.ask (.secureRoot i a p)).2.value = .secureRoot (some path) ∧
      (s.ask (.secureRoot i a p)).1.lastError = s.lastError) ∨
    (∃ fault,
      (secureRoot s.files s.sources i (p.getD .environment) a.allocate).outcome = .error fault ∧
      (s.ask (.secureRoot i a p)).2.value = .failed (.ofLookup fault) ∧
      (s.ask (.secureRoot i a p)).1.lastError = s.lastError) := by
  have hexit : Exit s.files i ((p.getD .environment).read s.sources).value a.allocate
      (secureRoot s.files s.sources i (p.getD .environment) a.allocate).outcome
      (secureRoot s.files s.sources i (p.getD .environment) a.allocate).reported
      (secureRoot s.files s.sources i (p.getD .environment) a.allocate).requests :=
    resolve_exit s.files i _ a.allocate
  have hanswer : (s.ask (.secureRoot i a p)).2.value
      = answerOr .ofLookup (fun result => .secureRoot result.path?)
        (secureRoot s.files s.sources i (p.getD .environment) a.allocate).outcome := rfl
  have hchannel : (s.ask (.secureRoot i a p)).1.lastError
      = (secureRoot s.files s.sources i (p.getD .environment) a.allocate).reported.getLast?.getD
        s.lastError := by
    rw [ask, lastError_report, (s.hold_frame a _).2.2]
  rw [hanswer, hchannel]
  -- The exits of the lookup are told apart by what they report.
  generalize (secureRoot s.files s.sources i (p.getD .environment) a.allocate).outcome = outcome,
    (secureRoot s.files s.sources i (p.getD .environment) a.allocate).reported = reported,
    (secureRoot s.files s.sources i (p.getD .environment) a.allocate).requests = requests at hexit
  cases hexit with
  | malformed _ _ => exact Or.inr (Or.inr ⟨_, rfl, rfl, rfl⟩)
  | unexamined _ _ => exact Or.inr (Or.inr ⟨_, rfl, rfl, rfl⟩)
  | passedOn _ _ => exact Or.inr (Or.inr ⟨_, rfl, rfl, rfl⟩)
  | missed _ hdiagnostic => exact Or.inl ⟨_, _, rfl, hdiagnostic, rfl, rfl⟩
  | refused _ =>
    exact Or.inl ⟨_, _, rfl, Diagnostic.allocationFailure_ne_empty _ _, rfl, rfl⟩
  | delivered _ => exact Or.inr (Or.inl ⟨_, rfl, rfl, rfl⟩)

/-- Questions other than that for a secure root write nothing. -/
lemma lastError_ask (s : Session) {q : Query} (hq : ∀ i a p, q ≠ .secureRoot i a p) :
    (s.ask q).1.lastError = s.lastError := by
  cases q with
  | resolve i config a sink => exact (s.hold_frame a _).2.2
  | secureRoot i a p => exact absurd rfl (hq i a p)
  | securityOptions i p a => exact (s.hold_frame a _).2.2
  | _ => rfl

/-- Steps that are no writes to the channel leave it alone. -/
lemma lastError_step (s : Session) {next : Step} (hset : ∀ message, next ≠ .setError message)
    (hreset : next ≠ .resetError) (hlookup : ∀ i a p, next ≠ .ask (.secureRoot i a p)) :
    (s.step next).1.lastError = s.lastError := by
  cases next with
  | build tree =>
    simp only [step, told]
    exact (s.withFiles_frame _).2.2
  | remove path =>
    simp only [step, told]
    exact (s.withFiles_frame _).2.2
  | rename source target =>
    simp only [step, told]
    exact (s.withFiles_frame _).2.2
  | setError message => exact absurd rfl (hset message)
  | resetError => exact absurd rfl hreset
  | allocate name path =>
    simp only [step, told]
    exact (s.hold_frame (.pool name) [path]).2.2
  | release name path =>
    simp only [step, told]
    exact (s.release_frame name path).2.2
  | ask q =>
    rw [step_ask]
    exact s.lastError_ask fun i a p heq => hlookup i a p (by rw [heq])
  | thread steps => rw [step_thread, withError]
  | _ => rfl

/-- **The channel after a step** is what the step has written, or else what it was before. -/
lemma lastError_after (s : Session) (next : Step) :
    (s.step next).1.lastError = (Turn.mk s next).written?.getD s.lastError := by
  -- Most steps write nothing, and leave the channel alone for one and the same reason.
  have hquiet : ∀ next : Step, (∀ message, next ≠ .setError message) → next ≠ .resetError →
      (∀ i a p, next ≠ .ask (.secureRoot i a p)) → (Turn.mk s next).written? = none →
      (s.step next).1.lastError = (Turn.mk s next).written?.getD s.lastError := by
    intro next hset hreset hlookup hnone
    rw [hnone]
    exact s.lastError_step hset hreset hlookup
  cases next with
  | setError message => rfl
  | resetError => rfl
  | ask q =>
    cases q with
    | secureRoot i a p =>
      rw [step_ask, Turn.written?]
      rcases s.secureRoot_cases i a p with ⟨_, _, hout, -, -, herror⟩ | ⟨_, hout, -, herror⟩ |
        ⟨_, hout, -, herror⟩ <;> simp only [hout] <;> exact herror
    | _ => exact hquiet _ (by simp) (by simp) (by simp) rfl
  | _ => exact hquiet _ (by simp) (by simp) (by simp) rfl

/-- **The channel after a run** is what was written last in the course of the thread. -/
lemma lastError_run (s : Session) (steps : List Step) :
    (s.run steps).1.lastError
      = ((s.course steps).filterMap Turn.written?).getLast?.getD s.lastError := by
  induction steps generalizing s with
  | nil => rfl
  | cons next rest ih =>
    -- What the first step writes lasts only if nothing is written later.
    rw [run_cons, ih, lastError_after, course, List.filterMap_cons]
    rcases (Turn.mk s next).written? with _ | text
    · rfl
    · rw [List.getLast?_cons]
      rfl

/-- A thread within a run starts with an empty channel, and so does the run. -/
lemma Point.lastError_start {s : Session} {steps : List Step} {start : Session} {done : List Step}
    {past : List Turn} (h : Point s steps start done past) (hs : s.lastError = "") :
    start.lastError = "" := by
  induction h with
  | between s done rest => exact hs
  | within s before rest h ih =>
    -- Whatever was on the channel of the outer thread, an inner one does not start with it.
    exact ih rfl

/-! ## What depends on the channel -/

section WithError

variable (s : Session) (text : String)

lemma setPool_withError (name : String) (p : Pool) :
    (s.withError text).setPool name p = (s.setPool name p).withError text := by
  rw [setPool, setPool, show (s.withError text).pools = s.pools from rfl]
  split <;> rfl

lemma hold_withError (a : Allocator) (paths : List String) :
    (s.withError text).hold a paths = (s.hold a paths).withError text := by
  cases a with
  | pool name => exact s.setPool_withError text name _
  | _ => rfl

lemma report_withError (texts : List String) :
    ∃ text', (s.withError text).report texts = (s.report texts).withError text' := by
  rw [report, report]
  rcases texts.getLast? with _ | last
  · exact ⟨text, rfl⟩
  · exact ⟨last, rfl⟩

/-- A question is answered without a look at the channel. -/
lemma ask_withError (q : Query) :
    (∃ text', ((s.withError text).ask q).1 = (s.ask q).1.withError text') ∧
      ((s.withError text).ask q).2 = (s.ask q).2 := by
  cases q with
  | resolve i config a sink => exact ⟨⟨text, s.hold_withError text a _⟩, rfl⟩
  | secureRoot i a p =>
    -- The text is another one afterwards if the lookup has a diagnostic.
    let r := secureRoot s.files s.sources i (p.getD .environment) a.allocate
    obtain ⟨text', hreport⟩ :=
      (s.hold a (a.grants r.requests)).report_withError text r.reported
    rw [← hold_withError] at hreport
    exact ⟨⟨text', hreport⟩, rfl⟩
  | securityOptions i p a => exact ⟨⟨text, s.hold_withError text a _⟩, rfl⟩
  | _ => exact ⟨⟨text, rfl⟩, rfl⟩

lemma withFiles_withError (change : Except PathFault FileSystem) :
    ((s.withError text).withFiles change).1 = (s.withFiles change).1.withError text := by
  rcases change with fault | files <;> rfl

lemma release_withError (name path : String) :
    ((s.withError text).release name path).1 = (s.release name path).1.withError text := by
  rw [release, release, show (s.withError text).pool name = s.pool name from rfl]
  split <;> exact s.setPool_withError text name _

end WithError

/-- To differ in the channel at most is a congruence. -/
lemma congruence_withError : Congruence fun s t => ∃ text, t = s.withError text where
  files := by
    rintro s - ⟨text, rfl⟩
    rfl
  withError := by
    rintro s - ⟨-, rfl⟩ - text
    exact ⟨text, rfl⟩
  withFiles := by
    rintro s - ⟨text, rfl⟩ change
    exact ⟨text, s.withFiles_withError text change⟩
  withSources := by
    rintro s - ⟨text, rfl⟩ change
    exact ⟨text, rfl⟩
  hold := by
    rintro s - ⟨text, rfl⟩ name paths
    exact ⟨text, s.hold_withError text (.pool name) paths⟩
  release := by
    rintro s - ⟨text, rfl⟩ name path
    exact ⟨text, s.release_withError text name path⟩
  ask := by
    rintro s - ⟨text, rfl⟩ q
    exact (s.ask_withError text q).1

/-- **A run has the same effect on everything but the channel**, whatever the channel holds. -/
lemma run_withError (s : Session) (text : String) (steps : List Step) :
    ∃ text', ((s.withError text).run steps).1 = (s.run steps).1.withError text' :=
  congruence_withError.run ⟨text, rfl⟩ steps

/-- A thread leaves what it shares with others as if its steps had been taken outside. -/
lemma step_thread_eq_run (s : Session) (inner : List Step) :
    (s.step (.thread inner)).1 = (s.run inner).1.withError s.lastError := by
  obtain ⟨text, hrun⟩ := s.run_withError "" inner
  rw [step_thread, fresh, hrun]
  rfl

/-! ## What a thread may rely on -/

/-- The error channel of a thread in the session `now`, given the turns in its own course. -/
structure Channel (now : Session) (own : List Turn) : Prop where
  /-- It holds what the thread has written last, and nothing if it has written nothing. -/
  last : now.lastError = (own.filterMap Turn.written?).getLast?.getD ""
  /-- It can be read. -/
  read : (Turn.mk now .getError).answer = .text now.lastError
  /-- One can ask whether it is empty. -/
  isSet : (Turn.mk now .errorIsSet).answer = .flag (now.lastError ≠ "")
  /-- What is put there is there. -/
  set : ∀ message, (Turn.mk now (.setError message)).after.lastError = message
  /-- It can be cleared. -/
  reset : (Turn.mk now .resetError).after.lastError = ""
  /-- A lookup of a secure root that finds nothing leaves its diagnostic, which is not empty. -/
  missed : ∀ i a p, (Turn.mk now (.ask (.secureRoot i a p))).answer = .secureRoot none →
    ∃ cause diagnostic,
      (secureRoot now.files now.sources i (p.getD .environment) a.allocate).outcome
        = .ok (.notFound cause diagnostic) ∧
      diagnostic ≠ "" ∧ (Turn.mk now (.ask (.secureRoot i a p))).after.lastError = diagnostic
  /-- One that finds a directory leaves the channel alone, and so does one that is raised out of. -/
  unmissed : ∀ i a p, (Turn.mk now (.ask (.secureRoot i a p))).answer ≠ .secureRoot none →
    (Turn.mk now (.ask (.secureRoot i a p))).after.lastError = now.lastError
  /-- No other step changes it, whatever the threads within that step do. -/
  others : ∀ next : Step, (∀ message, next ≠ .setError message) → next ≠ .resetError →
    (∀ i a p, next ≠ .ask (.secureRoot i a p)) →
    (Turn.mk now next).after.lastError = now.lastError
  /-- A thread reads nothing at first. -/
  starts : ∀ rest, ∃ reports, (Turn.mk now (.thread (.getError :: rest))).answer
    = .thread (.after (.text "") [] "" now.outstanding :: reports)
  /-- Everything but the channel is after a thread as if its steps had been taken outside. -/
  inline : ∀ steps, (Turn.mk now (.thread steps)).after
    = (now.run steps).1.withError now.lastError

/-- **The error channel has the last write of its own thread at every point**, in threads within
threads as well, if nothing has been written in the beginning. -/
theorem channel_point {s : Session} {steps : List Step} {start : Session} {done : List Step}
    {past : List Turn} (hs : s.lastError = "") (h : Point s steps start done past) :
    Channel (start.run done).1 (start.course done) := by
  have hlast := start.lastError_run done
  rw [h.lastError_start hs] at hlast
  -- From here on it does not matter how the thread has come to where it is.
  generalize (start.run done).1 = now at hlast
  refine ⟨hlast, rfl, rfl, fun _ => rfl, rfl, ?_, ?_, ?_, ?_, ?_⟩
  · intro i a p hanswer
    rw [(now.turn_ask _).2] at hanswer
    rw [(now.turn_ask _).1]
    rcases now.secureRoot_cases i a p with ⟨cause, diagnostic, hout, hne, -, herror⟩ |
      ⟨path, -, hfound, -⟩ | ⟨fault, -, hraised, -⟩
    · exact ⟨cause, diagnostic, hout, hne, herror⟩
    · rw [hfound] at hanswer
      cases hanswer
    · rw [hraised] at hanswer
      cases hanswer
  · intro i a p hanswer
    rw [(now.turn_ask _).2] at hanswer
    rw [(now.turn_ask _).1]
    rcases now.secureRoot_cases i a p with ⟨-, -, -, -, hmissed, -⟩ | ⟨-, -, -, herror⟩ |
      ⟨-, -, -, herror⟩
    · exact absurd hmissed hanswer
    · exact herror
    · exact herror
  · exact fun next => now.lastError_step
  · intro rest
    refine ⟨(now.fresh.run rest).2, ?_⟩
    rw [Turn.answer, step, run]
    rfl
  · exact now.step_thread_eq_run

/-- A lookup that finds nothing, as nothing says where to look. -/
def vainLookup : Step := .ask (.secureRoot ⟨"talker", "/"⟩ .untracked none)

/-- A session with nothing in it, in which a thread starts after a text has been put on the error
channel. -/
def sampleThread : Session := (({ files := .bare [] } : Session).run [.setError "outer"]).1.fresh

/-- A thread in a thread reads the diagnostic of its own lookup, and not what was put on the channels
of the other two. -/
theorem channel_point_within :
    (Turn.mk (((sampleThread.run [.setError "inner"]).1.fresh).run [vainLookup]).1 .getError).answer
      = .text Diagnostic.configurationMissing := by
  have hpoint : Point { files := .bare [] }
      ([.setError "outer"] ++
        .thread ([.setError "inner"] ++ .thread ([vainLookup] ++ [.getError]) :: []) :: [])
      (sampleThread.run [.setError "inner"]).1.fresh [vainLookup] _ :=
    .within _ _ _ (.within _ _ _ (.between _ _ _))
  have hchannel := channel_point rfl hpoint
  rw [hchannel.read, hchannel.last]
  rfl

end Session
end Keystore
