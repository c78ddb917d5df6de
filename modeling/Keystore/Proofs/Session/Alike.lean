/-
Sessions that are alike.

Two sessions are alike if they have the same files and the same sources, know the same pools, and
hold every path equally often in each of them.  In which order the pools came to be known, in which
order a pool lists its paths, and what is on the error channel does not matter.

What is alike stays alike: likeness is a congruence, and so every run takes alike sessions to alike
sessions (`alike_run`).  A question is answered alike in both (`ask_congr`), and what is outstanding is
the same but for the order (`Alike.outstanding`).
-/
import Mathlib.Algebra.BigOperators.Group.List.Basic
import Mathlib.Data.List.Basic
import Mathlib.Data.List.Nodup
import Keystore.Proofs.Session.Accounts
import Keystore.Proofs.Session.Congruence

namespace Keystore

/-- What is outstanding depends only on how often each path is held. -/
lemma Pool.outstanding_congr {p q : Pool} (hp : p.WellKept) (hq : q.WellKept)
    (h : ∀ path, p.held path = q.held path) : p.outstanding = q.outstanding := by
  have hpaths : p.paths.Perm q.paths :=
    (List.perm_ext_iff_of_nodup hp.nodup hq.nodup).2 fun path => by
      rw [hp.mem_paths_iff, hq.mem_paths_iff, h]
  have hheld : p.held = q.held := funext h
  rw [hp.outstanding_eq, hq.outstanding_eq, hheld]
  exact (hpaths.map q.held).sum_eq

namespace Session

/-! ## The pools that are known -/

/-- A pool of the given name has been named. -/
def Knows (s : Session) (name : String) : Prop := ∃ p, s.pools.lookup name = some p

lemma knows_setPool (s : Session) (name other : String) (p : Pool) :
    (s.setPool name p).Knows other ↔ s.Knows other ∨ other = name := by
  rw [Knows, lookup_setPool]
  by_cases h : other = name
  · simp [h]
  · simp [h, Knows]

lemma knows_hold (s : Session) (a : Allocator) (paths : List String) (name : String) :
    (s.hold a paths).Knows name ↔ s.Knows name ∨ a.pool? = some name := by
  cases a with
  | pool own =>
    rw [hold, knows_setPool, Allocator.pool?, Option.some_inj]
    exact or_congr_right eq_comm
  | _ => simp [hold, Allocator.pool?]

/-- What is reported to be outstanding: the counts of the pools that are known. -/
lemma WellKept.mem_outstanding_iff {s : Session} (h : s.WellKept) {name : String} {n : ℕ} :
    (name, n) ∈ s.outstanding ↔ s.Knows name ∧ n = (s.pool name).outstanding := by
  constructor
  · intro hmem
    obtain ⟨e, he, heq⟩ := List.mem_map.1 hmem
    cases heq
    exact ⟨⟨e.2, lookup_eq_some_of_mem h.nodup he⟩, by rw [h.eq_pool he]⟩
  · rintro ⟨⟨p, hp⟩, rfl⟩
    obtain ⟨l₁, l₂, hpools, -⟩ := List.lookup_eq_some_iff.1 hp
    rw [Session.pool, hp]
    exact List.mem_map.2 ⟨(name, p), by simp [hpools], rfl⟩

lemma WellKept.nodup_outstanding {s : Session} (h : s.WellKept) : s.outstanding.Nodup := by
  have hnames : s.outstanding.map (·.1) = s.pools.map (·.1) := by
    rw [outstanding, List.map_map]
    rfl
  exact List.Nodup.of_map _ (hnames ▸ h.nodup)

/-! ## Likeness -/

/-- Sessions that agree on everything but the order of lists and the error channel. -/
structure Alike (s t : Session) : Prop where
  files : s.files = t.files
  sources : s.sources = t.sources
  held : ∀ name path, (s.pool name).held path = (t.pool name).held path
  knows : ∀ name, s.Knows name ↔ t.Knows name

/-- A question is answered from the files and the sources. -/
lemma ask_congr {s t : Session} (hfiles : s.files = t.files) (hsources : s.sources = t.sources)
    (q : Query) : (s.ask q).2 = (t.ask q).2 := by
  obtain ⟨files, sources, pools, text⟩ := s
  obtain ⟨files', sources', pools', text'⟩ := t
  obtain rfl : files = files' := hfiles
  obtain rfl : sources = sources' := hsources
  cases q <;> rfl

lemma requests_congr {s t : Session} (hfiles : s.files = t.files) (hsources : s.sources = t.sources)
    (q : Query) : s.requests q = t.requests q := by
  cases q <;> simp only [requests, hfiles, hsources]

namespace Alike

variable {s t : Session}

lemma withError (h : Alike s t) (text text' : String) :
    Alike (s.withError text) (t.withError text') :=
  ⟨h.files, h.sources, h.held, h.knows⟩

lemma setPool (h : Alike s t) (name : String) {p q : Pool}
    (hheld : ∀ path, p.held path = q.held path) : Alike (s.setPool name p) (t.setPool name q) := by
  refine ⟨?_, ?_, fun other path => ?_, fun other => ?_⟩
  · rw [(s.setPool_frame name p).1, (t.setPool_frame name q).1, h.files]
  · rw [(s.setPool_frame name p).2.1, (t.setPool_frame name q).2.1, h.sources]
  · rw [pool_setPool, pool_setPool]
    split
    · exact hheld path
    · exact h.held other path
  · rw [knows_setPool, knows_setPool, h.knows]

lemma hold (h : Alike s t) (a : Allocator) (paths : List String) :
    Alike (s.hold a paths) (t.hold a paths) := by
  cases a with
  | pool name =>
    refine h.setPool name fun path => ?_
    rw [Pool.held_foldl_hold, Pool.held_foldl_hold, h.held]
  | _ => exact h

lemma ask (h : Alike s t) (q : Query) : Alike (s.ask q).1 (t.ask q).1 := by
  obtain ⟨text, hs⟩ := s.ask_eq_hold q
  obtain ⟨text', ht⟩ := t.ask_eq_hold q
  rw [hs, ht, requests_congr h.files h.sources q]
  exact (h.hold _ _).withError text text'

lemma withFiles (h : Alike s t) (change : Except PathFault FileSystem) :
    Alike (s.withFiles change).1 (t.withFiles change).1 := by
  rcases change with fault | files
  · exact h
  · exact ⟨rfl, h.sources, h.held, h.knows⟩

lemma withSources (h : Alike s t) (change : Sources → Sources) :
    Alike (s.withSources change).1 (t.withSources change).1 :=
  ⟨h.files, congrArg change h.sources, h.held, h.knows⟩

lemma release (h : Alike s t) (name path : String) :
    Alike (s.release name path).1 (t.release name path).1 := by
  -- The path is held in both pools or in none.
  rcases s.release_cases name path with ⟨p, hp, hs⟩ | ⟨hzero, hs⟩ <;>
    rcases t.release_cases name path with ⟨q, hq, ht⟩ | ⟨hzero', ht⟩ <;> rw [hs, ht]
  · refine h.setPool name fun other => ?_
    have hleft := Pool.held_of_release hp other
    have hright := Pool.held_of_release hq other
    have hheld := h.held name other
    omega
  · have hpos := Pool.exists_release_iff.1 ⟨p, hp⟩
    rw [h.held, hzero'] at hpos
    exact absurd hpos (Nat.lt_irrefl 0)
  · have hpos := Pool.exists_release_iff.1 ⟨q, hq⟩
    rw [← h.held, hzero] at hpos
    exact absurd hpos (Nat.lt_irrefl 0)
  · exact h.setPool name (h.held name)

/-- The reports on alike sessions say the same of what is outstanding, but for the order. -/
lemma outstanding (h : Alike s t) (hs : s.WellKept) (ht : t.WellKept) :
    s.outstanding.Perm t.outstanding := by
  refine (List.perm_ext_iff_of_nodup hs.nodup_outstanding ht.nodup_outstanding).2 ?_
  rintro ⟨name, n⟩
  rw [hs.mem_outstanding_iff, ht.mem_outstanding_iff, h.knows,
    Pool.outstanding_congr (hs.pool name) (ht.pool name) (h.held name)]

end Alike

/-- Whatever changes alike sessions leaves them alike. -/
lemma congruence_alike : Congruence Alike where
  files h := h.files
  withError h := h.withError
  withFiles h := h.withFiles
  withSources h := h.withSources
  hold h name := h.hold (.pool name)
  release h := h.release
  ask h := h.ask

/-- **A run takes alike sessions to alike sessions.** -/
theorem alike_run {s t : Session} (h : Alike s t) (steps : List Step) :
    Alike (s.run steps).1 (t.run steps).1 :=
  congruence_alike.run h steps

end Session
end Keystore
