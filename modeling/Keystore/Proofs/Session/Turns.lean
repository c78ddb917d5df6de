/-
The turns of a run.

A thread is a step of the thread that starts it, and takes steps of its own meanwhile.  So a
run can be looked at in two ways.  To the thread that takes them, its steps follow one another,
and an inner thread is one of them; this is its `course`.  To what the threads share, all steps
follow one another whoever takes them; these are the `turns` of a run.  A turn is a step with
the session that it is taken in, so that one can tell later what the step did.

A *point* of a run lies between two steps of one of its threads.  `Point` says which thread
this is, by the session that it started from and the steps that it has taken, and lists the
turns of all threads up to there.  What is claimed of all points holds after every step of
the run, in threads within threads as well.

Most claims about points go along with the turns one by one, and do not care for error channels.
It is enough to test those on single turns (`Traced.point`).
-/
import Mathlib.Data.List.Basic
import Keystore.Proofs.Session

namespace Keystore

/-- The answer that is reported. -/
def Report.answer : Report → Answer
  | .after answer _ _ _ => answer

/-- A step as it was taken. -/
structure Turn where
  /-- The session before the step. -/
  before : Session
  /-- The step. -/
  step : Step

namespace Turn

/-- The session after the step. -/
def after (t : Turn) : Session := (t.before.step t.step).1

/-- The answer to the step. -/
def answer (t : Turn) : Answer := (t.before.step t.step).2.answer

end Turn

namespace Session

/-- The session with another text on the error channel. -/
def withError (s : Session) (text : String) : Session := { s with lastError := text }

/-- The session in which a thread starts: nothing has been put on its error channel. -/
def fresh (s : Session) : Session := s.withError ""

mutual

/-- The turns of a step: the step itself, or the turns of a thread in its place. -/
def turnsOf (s : Session) (next : Step) : List Turn :=
  match next with
  | .thread steps => turns s.fresh steps
  | next => [⟨s, next⟩]

/-- The turns of a run, those of inner threads included, in the order in which they come. -/
def turns (s : Session) (steps : List Step) : List Turn :=
  match steps with
  | [] => []
  | next :: rest => turnsOf s next ++ turns (s.step next).1 rest

end

lemma turnsOf_eq_singleton {next : Step} (h : ∀ steps, next ≠ .thread steps) (s : Session) :
    s.turnsOf next = [⟨s, next⟩] := by
  cases next with
  | thread steps => exact absurd rfl (h steps)
  | _ => rfl

/-- The steps that a thread takes itself, an inner thread being one of them. -/
def course (s : Session) : List Step → List Turn
  | [] => []
  | next :: rest => ⟨s, next⟩ :: course (s.step next).1 rest

/-- The points of a run.  In the run of `steps` from `s`, the thread that started from `start` has
taken the steps `done`, and `past` is what has happened in all threads up to there. -/
inductive Point : (s : Session) → (steps : List Step) → (start : Session) → (done : List Step) →
    (past : List Turn) → Prop where
  /-- The outermost thread is between two steps. -/
  | between (s : Session) (done rest : List Step) :
    Point s (done ++ rest) s done (s.turns done)
  /-- An inner thread is, or one within it. -/
  | within (s : Session) (before : List Step) {inner : List Step} (rest : List Step)
    {start : Session} {done : List Step} {past : List Turn}
    (h : Point (s.run before).1.fresh inner start done past) :
    Point s (before ++ .thread inner :: rest) start done (s.turns before ++ past)

/-! ## Running on -/

lemma run_cons (s : Session) (next : Step) (rest : List Step) :
    (s.run (next :: rest)).1 = ((s.step next).1.run rest).1 := by
  rw [run]

lemma run_append (s : Session) (steps rest : List Step) :
    (s.run (steps ++ rest)).1 = ((s.run steps).1.run rest).1 := by
  induction steps generalizing s with
  | nil => rfl
  | cons next steps ih => rw [List.cons_append, run_cons, run_cons, ih]

lemma step_thread (s : Session) (inner : List Step) :
    (s.step (.thread inner)).1 = (s.fresh.run inner).1.withError s.lastError := by
  rw [step]
  rfl

lemma step_ask (s : Session) (q : Query) : (s.step (.ask q)).1 = (s.ask q).1 := by
  rw [step]

/-! ## Going along with the turns -/

/-- A relation between a session, the turns in it, and the session afterwards, that goes along with
the turns: it holds of single turns, from one turn to the next one, and whatever is on the error
channels. -/
structure Traced (R : Session → List Turn → Session → Prop) : Prop where
  /-- Nothing happens without a turn. -/
  rest : ∀ s, R s [] s
  /-- A step that is no thread is a turn. -/
  turn : ∀ s next, (∀ steps, next ≠ .thread steps) → R s [⟨s, next⟩] (s.step next).1
  /-- Turns follow one another. -/
  append : ∀ {s t u past more}, R s past t → R t more u → R s (past ++ more) u
  /-- A thread starts with a channel of its own. -/
  start : ∀ {s past t} text, R (s.withError text) past t → R s past t
  /-- The channel of the outer thread comes back. -/
  back : ∀ {s past t} text, R s past t → R s past (t.withError text)

namespace Traced

variable {R : Session → List Turn → Session → Prop}

mutual

theorem step (hR : Traced R) (s : Session) (next : Step) :
    R s (s.turnsOf next) (s.step next).1 := by
  cases next with
  | thread steps =>
    rw [step_thread, turnsOf]
    exact hR.back _ (hR.start "" (run hR s.fresh steps))
  | _ =>
    rw [turnsOf_eq_singleton (by simp)]
    exact hR.turn s _ (by simp)

/-- What goes along with single turns goes along with a run. -/
theorem run (hR : Traced R) (s : Session) (steps : List Step) :
    R s (s.turns steps) (s.run steps).1 := by
  cases steps with
  | nil => exact hR.rest s
  | cons next rest =>
    rw [run_cons, turns]
    exact hR.append (step hR s next) (run hR (s.step next).1 rest)

end

/-- **What goes along with single turns holds at all points.** -/
theorem point (hR : Traced R) {s : Session} {steps : List Step} {start : Session}
    {done : List Step} {past : List Turn} (h : Point s steps start done past) :
    R s past (start.run done).1 := by
  induction h with
  | between s done rest => exact hR.run s done
  | within s before rest h ih =>
    -- The inner thread starts from what the outer one has done before.
    exact hR.append (hR.run s before) (hR.start "" ih)

end Traced

lemma turn_ask (s : Session) (q : Query) :
    (Turn.mk s (.ask q)).after = (s.ask q).1 ∧ (Turn.mk s (.ask q)).answer = (s.ask q).2.value := by
  rw [Turn.after, Turn.answer, step]
  exact ⟨rfl, rfl⟩

lemma turn_release (s : Session) (name path : String) :
    (Turn.mk s (.release name path)).after = (s.release name path).1 ∧
      (Turn.mk s (.release name path)).answer = (s.release name path).2 := by
  rw [Turn.after, Turn.answer, step]
  exact ⟨rfl, rfl⟩

end Session
end Keystore
