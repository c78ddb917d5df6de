/-
Questions observe.

A question looks at the files and the sources and changes neither.  All it leaves behind is the
path that it hands out, in the pool that it names, and perhaps a text on the error channel of its own
thread.  So nothing that it leaves can be seen by the next question: in a row of questions each one is
answered as if it were the only one (`shown_asks`), and the row as a whole leaves what its questions
would leave in any other order (`alike_asks`).  What comes after the row cannot tell the orders apart
either, but by the error channel; this is where `alike_run` comes in.
-/
import Mathlib.Data.List.Basic
import Keystore.Proofs.Session.Alike
import Keystore.Proofs.Session.Channel

namespace Keystore

/-- The answer and the events of a report. -/
def Report.shown : Report → Logged Answer
  | .after answer events _ _ => ⟨events, answer⟩

namespace Session

/-! ## A row of questions -/

/-- The steps that ask some questions. -/
def asks (qs : List Query) : List Step := qs.map .ask

variable (s : Session)

lemma run_asks_cons (q : Query) (rest : List Query) :
    (s.run (asks (q :: rest))).1 = ((s.ask q).1.run (asks rest)).1 := by
  rw [asks, List.map_cons, run_cons, step_ask]
  rfl

/-- Every question of a row is answered as if it were the only one. -/
lemma shown_asks (qs : List Query) :
    (s.run (asks qs)).2.map Report.shown = qs.map fun q => (s.ask q).2 := by
  induction qs generalizing s with
  | nil => rfl
  | cons q rest ih =>
    obtain ⟨hfiles, hsources⟩ := s.ask_frame q
    have hrest : (rest.map fun other => ((s.ask q).1.ask other).2)
        = rest.map fun other => (s.ask other).2 :=
      List.map_congr_left fun other _ => ask_congr hfiles hsources other
    have hfirst : (s.step (.ask q)).2.shown = (s.ask q).2 := by
      rw [step]
      rfl
    rw [List.map_cons, ← hrest, ← ih, ← hfirst, ← step_ask]
    rfl

lemma asks_frame (qs : List Query) :
    (s.run (asks qs)).1.files = s.files ∧ (s.run (asks qs)).1.sources = s.sources := by
  induction qs generalizing s with
  | nil => exact ⟨rfl, rfl⟩
  | cons q rest ih =>
    obtain ⟨hfiles, hsources⟩ := s.ask_frame q
    rw [run_asks_cons, (ih _).1, (ih _).2]
    exact ⟨hfiles, hsources⟩

/-- Whether a question hands out a path of a pool. -/
def handsOut (name path : String) (q : Query) : Bool :=
  q.allocator.pool? = some name ∧ (s.ask q).2.value.path? = some path

lemma handsOut_congr {s t : Session} (hfiles : s.files = t.files) (hsources : s.sources = t.sources)
    (name path : String) : s.handsOut name path = t.handsOut name path := by
  funext q
  rw [handsOut, handsOut, ask_congr hfiles hsources]

lemma held_asks (qs : List Query) (name path : String) :
    ((s.run (asks qs)).1.pool name).held path
      = (s.pool name).held path + qs.countP (s.handsOut name path) := by
  induction qs generalizing s with
  | nil => rfl
  | cons q rest ih =>
    obtain ⟨hfiles, hsources⟩ := s.ask_frame q
    rw [run_asks_cons, ih, handsOut_congr hfiles hsources, held_ask, List.countP_cons, Nat.add_assoc,
      Nat.add_comm (List.countP _ _)]
    simp only [handsOut, decide_eq_true_eq]

lemma knows_asks (qs : List Query) (name : String) :
    (s.run (asks qs)).1.Knows name
      ↔ s.Knows name ∨ ∃ q ∈ qs, q.allocator.pool? = some name := by
  induction qs generalizing s with
  | nil => simp [asks, run]
  | cons q rest ih =>
    obtain ⟨text, heffect⟩ := s.ask_eq_hold q
    have hknows : (s.ask q).1.Knows name ↔ s.Knows name ∨ q.allocator.pool? = some name := by
      rw [heffect]
      exact s.knows_hold _ _ name
    rw [run_asks_cons, ih, hknows, or_assoc]
    simp only [List.mem_cons, exists_eq_or_imp]

/-- Only a lookup of a secure root writes to the error channel. -/
lemma lastError_asks {qs : List Query} (h : ∀ q ∈ qs, ∀ i a p, q ≠ .secureRoot i a p) :
    (s.run (asks qs)).1.lastError = s.lastError := by
  induction qs generalizing s with
  | nil => rfl
  | cons q rest ih =>
    obtain ⟨hq, hrest⟩ := List.forall_mem_cons.1 h
    rw [run_asks_cons, ih _ hrest]
    exact s.lastError_ask hq

/-- Whatever its order, a row of questions leaves the same. -/
lemma alike_asks {qs qs' : List Query} (h : qs.Perm qs') :
    Alike (s.run (asks qs)).1 (s.run (asks qs')).1 := by
  refine ⟨?_, ?_, fun name path => ?_, fun name => ?_⟩
  · rw [(s.asks_frame qs).1, (s.asks_frame qs').1]
  · rw [(s.asks_frame qs).2, (s.asks_frame qs').2]
  · rw [held_asks, held_asks, h.countP_eq]
  · simp only [knows_asks, h.mem_iff]

/-! ## Rows in a run -/

/-- Two runs that differ in the order of a row of questions, in an inner thread perhaps. -/
inductive Reordered : List Step → List Step → Prop where
  | row (before : List Step) {qs qs' : List Query} (after : List Step) (h : qs.Perm qs') :
    Reordered (before ++ (asks qs ++ after)) (before ++ (asks qs' ++ after))
  | within (before : List Step) {inner inner' : List Step} (after : List Step)
    (h : Reordered inner inner') :
    Reordered (before ++ .thread inner :: after) (before ++ .thread inner' :: after)

/-- **In whatever order the questions come**, the run leaves the same. -/
lemma Reordered.alike {steps steps' : List Step} (h : Reordered steps steps') (s : Session) :
    Alike (s.run steps).1 (s.run steps').1 := by
  induction h generalizing s with
  | row before after h =>
    rw [run_append, run_append, run_append, run_append]
    exact alike_run ((s.run before).1.alike_asks h) after
  | within before after h ih =>
    rw [run_append, run_append, run_cons, run_cons, step_thread, step_thread]
    exact alike_run ((ih _).withError _ _) after

/-! ## What a caller may rely on -/

/-- What comes of a row of questions. -/
structure Observed (s : Session) (qs : List Query) : Prop where
  /-- Each of them is answered, and logged, as if it were the only one. -/
  shown : (s.run (asks qs)).2.map Report.shown = qs.map fun q => (s.ask q).2
  files : (s.run (asks qs)).1.files = s.files
  /-- The environment and the shared mappings, and with them what providers answer. -/
  sources : (s.run (asks qs)).1.sources = s.sources
  /-- A path is held once more for each question that hands it out, by the pool that is named. -/
  held : ∀ name path, ((s.run (asks qs)).1.pool name).held path
    = (s.pool name).held path + qs.countP (s.handsOut name path)
  knows : ∀ name, (s.run (asks qs)).1.Knows name
    ↔ s.Knows name ∨ ∃ q ∈ qs, q.allocator.pool? = some name
  /-- Only lookups of secure roots write to the error channel. -/
  channel : (∀ q ∈ qs, ∀ i a p, q ≠ .secureRoot i a p) →
    (s.run (asks qs)).1.lastError = s.lastError
  /-- They do not write to that of another thread. -/
  elsewhere : (s.step (.thread (asks qs))).1.lastError = s.lastError

/-- **Questions are observers**, in every session. -/
theorem questions_observe (s : Session) :
    (∀ qs, Observed s qs) ∧
    (∀ q n, (s.run (List.replicate n (.ask q))).2.map Report.shown
      = List.replicate n (s.ask q).2) ∧
    (∀ steps steps', Reordered steps steps' →
      Alike (s.run steps).1 (s.run steps').1 ∧
      (∀ q, ((s.run steps).1.ask q).2 = ((s.run steps').1.ask q).2) ∧
      (s.WellKept → (s.run steps).1.outstanding.Perm (s.run steps').1.outstanding)) := by
  refine ⟨fun qs => ?_, fun q n => ?_, fun steps steps' h => ?_⟩
  · obtain ⟨hfiles, hsources⟩ := s.asks_frame qs
    exact ⟨s.shown_asks qs, hfiles, hsources, s.held_asks qs, s.knows_asks qs, s.lastError_asks,
      by rw [step_thread, withError]⟩
  · have hshown := s.shown_asks (List.replicate n q)
    rw [asks, List.map_replicate, List.map_replicate] at hshown
    exact hshown
  · have halike := h.alike s
    exact ⟨halike, ask_congr halike.files halike.sources, fun hkept =>
      halike.outstanding (wellKept_run hkept steps) (wellKept_run hkept steps')⟩

/-- Lookups of a directory that is there, and of one that nothing says where to look for. -/
def samplePair : List Query :=
  [.resolve ⟨"talker", "/"⟩ ⟨none, some "k/b", .whole⟩ (.pool "keys") true,
    .secureRoot ⟨"talker", "/"⟩ (.pool "spare") none]

/-- The two may be swapped in a thread.  What is outstanding is the same, although the pools come to
be known in another order. -/
theorem questions_observe_swapped :
    (sampleSession.run [.thread (asks samplePair)]).1.outstanding = [("keys", 1), ("spare", 0)] ∧
    (sampleSession.run [.thread (asks samplePair.reverse)]).1.outstanding
      = [("spare", 0), ("keys", 1)] ∧
    (sampleSession.run [.thread (asks samplePair)]).1.outstanding.Perm
      (sampleSession.run [.thread (asks samplePair.reverse)]).1.outstanding := by
  have hreordered : Reordered [.thread (asks samplePair)] [.thread (asks samplePair.reverse)] :=
    .within [] [] (.row [] [] (List.reverse_perm samplePair).symm)
  have hkept : sampleSession.WellKept := ⟨List.nodup_nil, fun e he => absurd he List.not_mem_nil⟩
  obtain ⟨-, -, hrun⟩ := questions_observe sampleSession
  exact ⟨rfl, rfl, (hrun _ _ hreordered).2.2 hkept⟩

end Session
end Keystore
