/-
Two sessions that take the same steps.

There are only a few ways in which a step changes a session: it writes the error channel, it
changes the files or the sources, it takes a path out of a pool or gives one back, or it asks
a question.  A relation between sessions that is kept by each of them is a *congruence*, and
is kept by every step and by every run, with threads in it (`Congruence.run`).
-/
import Keystore.Proofs.Session.Turns

namespace Keystore
namespace Session

/-- A relation between sessions that is kept in whatever way both of them are changed. -/
structure Congruence (R : Session → Session → Prop) : Prop where
  /-- The change of the files depends on the files. -/
  files : ∀ {s t}, R s t → s.files = t.files
  withError : ∀ {s t}, R s t → ∀ text text', R (s.withError text) (t.withError text')
  withFiles : ∀ {s t}, R s t → ∀ change, R (s.withFiles change).1 (t.withFiles change).1
  withSources : ∀ {s t}, R s t → ∀ change, R (s.withSources change).1 (t.withSources change).1
  hold : ∀ {s t}, R s t → ∀ name paths, R (s.hold (.pool name) paths) (t.hold (.pool name) paths)
  release : ∀ {s t}, R s t → ∀ name path, R (s.release name path).1 (t.release name path).1
  ask : ∀ {s t}, R s t → ∀ q, R (s.ask q).1 (t.ask q).1

namespace Congruence

variable {R : Session → Session → Prop}

mutual

/-- A step keeps a congruence. -/
theorem step (hR : Congruence R) {s t : Session} (h : R s t) (next : Step) :
    R (s.step next).1 (t.step next).1 := by
  cases next with
  | build tree =>
    simp only [Session.step, told, hR.files h]
    exact hR.withFiles h _
  | remove path =>
    simp only [Session.step, told, hR.files h]
    exact hR.withFiles h _
  | rename source target =>
    simp only [Session.step, told, hR.files h]
    exact hR.withFiles h _
  | setVariable name value =>
    simp only [Session.step, told]
    exact hR.withSources h _
  | unsetVariable name =>
    simp only [Session.step, told]
    exact hR.withSources h _
  | setEntry mapping name value =>
    simp only [Session.step, told]
    exact hR.withSources h _
  | unsetEntry mapping name =>
    simp only [Session.step, told]
    exact hR.withSources h _
  | setError message => exact hR.withError h message message
  | resetError => exact hR.withError h "" ""
  | getError => exact h
  | errorIsSet => exact h
  | allocate name path =>
    simp only [Session.step, told]
    exact hR.hold h name [path]
  | release name path =>
    simp only [Session.step, told]
    exact hR.release h name path
  | ask q =>
    rw [step_ask, step_ask]
    exact hR.ask h q
  | thread steps =>
    -- Both threads start with a channel of their own, and those of the sessions come back.
    rw [step_thread, step_thread]
    exact hR.withError (run hR (hR.withError h "" "") steps) _ _

/-- **A run keeps a congruence.** -/
theorem run (hR : Congruence R) {s t : Session} (h : R s t) (steps : List Step) :
    R (s.run steps).1 (t.run steps).1 := by
  cases steps with
  | nil => exact h
  | cons next rest =>
    rw [run_cons, run_cons]
    exact run hR (step hR h next) rest

end

end Congruence
end Session
end Keystore
