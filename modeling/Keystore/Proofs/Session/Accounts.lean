/-
The accounts of the pools of a session.

A pool gives out paths in four ways: to whoever asks for one, and to the three kinds of
lookups that find one.  It gets them back in one way.  What was taken is what the pool was asked for
and has granted, whatever became of it afterwards (`Turn.taken`), and what was returned is read off
the answers (`Turn.returned`).  The pool agrees with both, without a look at the answers of
lookups: at every point of a run each path is held as often as it was taken and not returned.

That nothing gets lost is another thing.  A lookup might ask for a path and then be raised out of,
or hand out a path that it has not asked for.  It does neither: what it was granted is what it
answers (`grants_requests`), as its exits show.  So a lookup that comes back with a path has
taken this path once, and one that does not has taken nothing.  `accounted_point` has both parts.

One step changes what a pool holds by what the step takes and returns (`held_turn`), and this goes
along with the turns of all threads up to any point of the run (`traced_held`).
-/
import Mathlib.Algebra.Ring.Nat
import Mathlib.Data.List.Basic
import Mathlib.Data.List.Count
import Keystore.Proofs.Lookup.Coherence
import Keystore.Proofs.Lookup.Search
import Keystore.Proofs.Pool
import Keystore.Proofs.Session.Turns

namespace Keystore

/-! ## What a turn takes and returns -/

/-- The pool that an allocator counts in. -/
def Allocator.pool? : Allocator → Option String
  | .pool name => some name
  | _ => none

/-- The allocator that a question asks for its path. -/
def Query.allocator : Query → Allocator
  | .resolve _ _ a _ => a
  | .secureRoot _ a _ => a
  | .securityOptions _ _ a => a
  | _ => .untracked

/-- The allocator that a step asks. -/
def Step.allocator : Step → Allocator
  | .allocate name _ => .pool name
  | .ask q => q.allocator
  | _ => .untracked

/-- What a question asks its allocator for. -/
def Session.requests (s : Session) : Query → List String
  | .resolve i config a _ => (resolve s.files i config a.allocate).requests
  | .secureRoot i a p =>
    (secureRoot s.files s.sources i (p.getD .environment) a.allocate).requests
  | .securityOptions i p a => (securityOptions s.files s.sources i p a.allocate).requests
  | _ => []

/-- The path that the answer to a question hands out. -/
def Answer.path? : Answer → Option String
  | .lookup r _ => r.path?
  | .secureRoot path => path
  | .options o => o.secureRoot
  | _ => none

namespace Turn

/-- What a turn asks its allocator for, by hand or in the course of a lookup. -/
def requests (t : Turn) : List String :=
  match t.step with
  | .allocate _ path => [path]
  | .ask q => t.before.requests q
  | _ => []

/-- What a turn has taken: the pool and the path of each request that a pool has granted. -/
def taken (t : Turn) : List (String × String) :=
  match t.step.allocator.pool? with
  | some name => (t.step.allocator.grants t.requests).map (name, ·)
  | none => []

/-- What a turn has returned: the pool and the path of a release that was not refused. -/
def returned (t : Turn) : List (String × String) :=
  match t.step, t.answer with
  | .release name path, .nothing => [(name, path)]
  | _, _ => []

lemma count_taken (t : Turn) (name path : String) :
    t.taken.count (name, path) = if t.step.allocator.pool? = some name then
      (t.step.allocator.grants t.requests).count path else 0 := by
  rw [taken]
  rcases t.step.allocator.pool? with _ | own
  · simp
  · by_cases h : own = name
    · subst h
      rw [if_pos rfl]
      exact List.count_map_of_injective _ _ (fun _ _ heq => congrArg Prod.snd heq) path
    · rw [if_neg (by simpa using h), List.count_eq_zero]
      intro hmem
      obtain ⟨there, -, heq⟩ := List.mem_map.1 hmem
      exact h (congrArg Prod.fst heq)

lemma returned_eq_nil {t : Turn} (h : ∀ name path, t.step ≠ .release name path) :
    t.returned = [] := by
  obtain ⟨s, next⟩ := t
  cases next with
  | release name path => exact absurd rfl (h name path)
  | _ => rfl

end Turn

namespace Session

/-! ## One step -/

lemma held_hold (s : Session) (a : Allocator) (paths : List String) (name path : String) :
    ((s.hold a paths).pool name).held path
      = (s.pool name).held path + if a.pool? = some name then paths.count path else 0 := by
  cases a with
  | pool own =>
    rw [hold, pool_setPool]
    by_cases h : name = own
    · simp [Allocator.pool?, h, Pool.held_foldl_hold]
    · have hne : own ≠ name := fun heq => h heq.symm
      simp [Allocator.pool?, h, hne]
  | _ => simp [hold, Allocator.pool?]

/-- But for the error channel, a question does nothing else than take what it is granted. -/
lemma ask_eq_hold (s : Session) (q : Query) :
    ∃ text, (s.ask q).1
      = (s.hold q.allocator (q.allocator.grants (s.requests q))).withError text := by
  cases q with
  | resolve i config a sink => exact ⟨_, rfl⟩
  | secureRoot i a p =>
    rw [ask]
    dsimp only
    rw [report]
    split <;> exact ⟨_, rfl⟩
  | securityOptions i p a => exact ⟨_, rfl⟩
  | _ => exact ⟨s.lastError, rfl⟩

/-- A question takes what it is granted. -/
lemma pool_ask (s : Session) (q : Query) (name : String) :
    (s.ask q).1.pool name
      = (s.hold q.allocator (q.allocator.grants (s.requests q))).pool name := by
  obtain ⟨text, heffect⟩ := s.ask_eq_hold q
  rw [heffect]
  rfl

/-- Giving a path back: the pool takes it if it is held, and is left as it is otherwise. -/
lemma release_cases (s : Session) (name path : String) :
    (∃ p, (s.pool name).release path = .ok p ∧ s.release name path = (s.setPool name p, .nothing)) ∨
      ((s.pool name).held path = 0 ∧
        s.release name path = (s.setPool name (s.pool name), .failed (.release ⟨path⟩))) := by
  rcases Nat.eq_zero_or_pos ((s.pool name).held path) with hzero | hpos
  · refine Or.inr ⟨hzero, ?_⟩
    rw [release, Pool.release_of_not_held hzero]
  · obtain ⟨p, hp⟩ := Pool.exists_release_iff.2 hpos
    refine Or.inl ⟨p, hp, ?_⟩
    rw [release, hp]

/-- A pool that takes a path back holds it once less, and everything else is held as before. -/
lemma held_setPool_of_release {s : Session} {own there : String} {p : Pool}
    (hp : (s.pool own).release there = .ok p) (name path : String) :
    ((s.setPool own p).pool name).held path + (if own = name ∧ there = path then 1 else 0)
      = (s.pool name).held path := by
  rw [pool_setPool]
  by_cases hname : name = own
  · have hheld := Pool.held_of_release hp path
    simpa [hname, eq_comm] using hheld
  · have hne : own ≠ name := fun heq => hname heq.symm
    simp [hname, hne]

lemma pool_setPool_self (s : Session) (name other : String) :
    (s.setPool name (s.pool name)).pool other = s.pool other := by
  rw [pool_setPool]
  split
  · next h => rw [h]
  · rfl

/-- A change of the files takes nothing and returns nothing. -/
lemma held_turn_of_files {s : Session} {next : Step} {change : Except PathFault FileSystem}
    (hnext : s.step next = told (s.withFiles change)) (hpool : next.allocator.pool? = none)
    (hreturned : ∀ name path, next ≠ .release name path) (name path : String) :
    ((Turn.mk s next).after.pool name).held path
        + (Turn.mk s next).returned.count (name, path)
      = (s.pool name).held path + (Turn.mk s next).taken.count (name, path) := by
  have hpools : (Turn.mk s next).after.pools = s.pools := by
    rw [Turn.after, hnext]
    exact (s.withFiles_frame change).2.1
  rw [Turn.returned_eq_nil hreturned, Turn.count_taken, hpool, pool, hpools, pool]
  rfl

/-- **What one step does to a pool.**  What it takes is held once more, what it returns once less,
and nothing else changes. -/
lemma held_turn (t : Turn) (ht : ∀ steps, t.step ≠ .thread steps) (name path : String) :
    (t.after.pool name).held path + t.returned.count (name, path)
      = (t.before.pool name).held path + t.taken.count (name, path) := by
  obtain ⟨s, next⟩ := t
  cases next with
  | build tree => exact held_turn_of_files (by rw [step]) rfl (by simp) name path
  | remove p => exact held_turn_of_files (by rw [step]) rfl (by simp) name path
  | rename source target => exact held_turn_of_files (by rw [step]) rfl (by simp) name path
  | allocate own there =>
    rw [Turn.count_taken, Turn.returned_eq_nil (by simp)]
    exact s.held_hold (.pool own) [there] name path
  | release own there =>
    obtain ⟨hafter, hanswer⟩ := s.turn_release own there
    rw [Turn.count_taken, Turn.returned, hafter, hanswer]
    rcases s.release_cases own there with ⟨p, hp, hrelease⟩ | ⟨-, hrelease⟩ <;> rw [hrelease]
    · have hheld := held_setPool_of_release hp name path
      simpa [Step.allocator, Allocator.pool?, List.count_singleton] using hheld
    · rw [pool_setPool_self]
      rfl
  | ask q =>
    rw [Turn.count_taken, Turn.returned_eq_nil (by simp), (s.turn_ask q).1, pool_ask, held_hold]
    rfl
  | thread steps => exact absurd rfl (ht steps)
  | _ => rfl

/-! ## A run -/

/-- What was taken in some turns: the pools and the paths, in order. -/
def taken (past : List Turn) : List (String × String) := past.flatMap Turn.taken

/-- What was returned in some turns. -/
def returned (past : List Turn) : List (String × String) := past.flatMap Turn.returned

/-- **What is held changes by what is taken and returned.** -/
lemma traced_held : Traced fun s past t => ∀ name path,
    (t.pool name).held path + (returned past).count (name, path)
      = (s.pool name).held path + (taken past).count (name, path) := by
  refine ⟨fun s name path => rfl, fun s next hnext name path => ?_, ?_, fun text h => h,
    fun text h => h⟩
  · rw [returned, taken, List.flatMap_singleton, List.flatMap_singleton]
    exact held_turn ⟨s, next⟩ hnext name path
  · intro s t u past more hpast hmore name path
    have hfirst := hpast name path
    have hsecond := hmore name path
    rw [returned, taken] at hfirst hsecond ⊢
    rw [List.flatMap_append, List.flatMap_append, List.count_append, List.count_append]
    omega

/-! ## The list of pools -/

/-- A session whose pools are in order. -/
structure WellKept (s : Session) : Prop where
  /-- No name has two pools. -/
  nodup : (s.pools.map (·.1)).Nodup
  /-- Every pool is in order. -/
  pools : ∀ e ∈ s.pools, e.2.WellKept

lemma WellKept.pool {s : Session} (h : s.WellKept) (name : String) : (s.pool name).WellKept := by
  rw [Session.pool]
  rcases hlookup : s.pools.lookup name with _ | p
  · exact Pool.wellKept_empty
  · obtain ⟨l₁, l₂, heq, -⟩ := List.lookup_eq_some_iff.1 hlookup
    exact h.pools (name, p) (by simp [heq])

lemma WellKept.setPool {s : Session} (h : s.WellKept) (name : String) {p : Pool}
    (hp : p.WellKept) : (s.setPool name p).WellKept := by
  rw [Session.setPool]
  split
  · -- The names stay where they are.
    have hnames : (s.pools.map fun e => if e.1 = name then (name, p) else e).map (·.1)
        = s.pools.map (·.1) := by
      rw [List.map_map]
      refine List.map_congr_left fun e _ => ?_
      by_cases he : e.1 = name <;> simp [he]
    refine ⟨by rw [hnames]; exact h.nodup, fun e he => ?_⟩
    obtain ⟨old, hold, rfl⟩ := List.mem_map.1 he
    split
    · exact hp
    · exact h.pools old hold
  · next hany =>
    have hnew : name ∉ s.pools.map (·.1) := by
      intro hmem
      obtain ⟨e, he, heq⟩ := List.mem_map.1 hmem
      exact hany (List.any_eq_true.2 ⟨e, he, by simpa using heq⟩)
    constructor
    · rw [List.map_append, List.nodup_append]
      refine ⟨h.nodup, List.nodup_singleton name, ?_⟩
      rintro a ha b hb rfl
      cases List.mem_singleton.1 hb
      exact hnew ha
    · intro e he
      rcases List.mem_append.1 he with he | he
      · exact h.pools e he
      · rw [List.mem_singleton.1 he]
        exact hp

lemma WellKept.hold {s : Session} (h : s.WellKept) (a : Allocator) (paths : List String) :
    (s.hold a paths).WellKept := by
  cases a with
  | pool name => exact h.setPool name ((h.pool name).foldl_hold paths)
  | _ => exact h

lemma WellKept.release {s : Session} (h : s.WellKept) (name path : String) :
    (s.release name path).1.WellKept := by
  rcases s.release_cases name path with ⟨p, hp, hrelease⟩ | ⟨-, hrelease⟩ <;> rw [hrelease]
  · exact h.setPool name ((h.pool name).of_release hp)
  · exact h.setPool name (h.pool name)

/-- Nothing but the pools matters. -/
lemma WellKept.of_pools {s s' : Session} (h : s.WellKept) (hpools : s'.pools = s.pools) :
    s'.WellKept :=
  ⟨hpools ▸ h.nodup, hpools ▸ h.pools⟩

lemma WellKept.withFiles {s : Session} (h : s.WellKept) (change : Except PathFault FileSystem) :
    (s.withFiles change).1.WellKept :=
  h.of_pools (s.withFiles_frame change).2.1

lemma WellKept.ask {s : Session} (h : s.WellKept) (q : Query) : (s.ask q).1.WellKept := by
  obtain ⟨text, heffect⟩ := s.ask_eq_hold q
  rw [heffect]
  exact (h.hold _ _).of_pools rfl

/-- A step that is no thread keeps the pools in order. -/
lemma WellKept.turn {s : Session} (h : s.WellKept) {next : Step}
    (hnext : ∀ steps, next ≠ .thread steps) : (s.step next).1.WellKept := by
  cases next with
  | build tree =>
    simp only [step, told]
    exact h.withFiles _
  | remove path =>
    simp only [step, told]
    exact h.withFiles _
  | rename source target =>
    simp only [step, told]
    exact h.withFiles _
  | allocate name path =>
    rw [step]
    exact h.hold (.pool name) [path]
  | release name path =>
    rw [step]
    exact h.release name path
  | ask q =>
    rw [step_ask]
    exact h.ask q
  | thread steps => exact absurd rfl (hnext steps)
  | _ => exact h.of_pools rfl

/-- **All turns keep the pools in order.** -/
lemma traced_wellKept : Traced fun s _ t => s.WellKept → t.WellKept :=
  ⟨fun _ h => h, fun _ _ hnext h => h.turn hnext, fun hpast hmore h => hmore (hpast h),
    fun _ hpast h => hpast (h.of_pools rfl), fun _ hpast h => (hpast h).of_pools rfl⟩

/-- **A run keeps the pools in order.** -/
theorem wellKept_run {s : Session} (h : s.WellKept) (steps : List Step) :
    (s.run steps).1.WellKept :=
  traced_wellKept.run s steps h

/-! ## Points -/

section Point

variable {s : Session} {steps : List Step} {start : Session} {done : List Step} {past : List Turn}
  (h : Point s steps start done past)

include h

lemma Point.held (name path : String) :
    ((start.run done).1.pool name).held path + (returned past).count (name, path)
      = (s.pool name).held path + (taken past).count (name, path) :=
  traced_held.point h name path

lemma Point.wellKept (hs : s.WellKept) : (start.run done).1.WellKept := traced_wellKept.point h hs

end Point

/-! ## What a question is granted -/

/-- Options have the directory that the allocator of their lookup has granted. -/
lemma securityOptions_grants (fs : FileSystem) (src : Sources) (i : Identity) (p : Provider)
    (a : Allocator) :
    a.grants (securityOptions fs src i p a.allocate).requests
      = ((securityOptions fs src i p a.allocate).value.toOption.bind
          SecurityOptions.secureRoot).toList := by
  have hgrants : a.grants (secureRoot fs src i p a.allocate).requests
      = ((secureRoot fs src i p a.allocate).outcome.toOption.bind LookupResult.path?).toList :=
    (resolve_exit fs i (p.read src).value a.allocate).grants
  rw [securityOptions]
  split
  · dsimp only
    rcases houtcome : (secureRoot fs src i p a.allocate).outcome with
      fault | path | ⟨cause, diagnostic⟩ <;> rw [houtcome] at hgrants
    · exact hgrants
    · exact hgrants
    · rcases p.enforcement src <;> exact hgrants
  · rfl

/-- The path of an answer that may be a failure instead. -/
lemma path?_answerOr {ε α : Type} (failure : ε → Failure) (answer : α → Answer) (e : Except ε α) :
    (answerOr failure answer e).path? = e.toOption.bind fun a => (answer a).path? := by
  rcases e with _ | _ <;> rfl

lemma path?_answerOr_eq_none {ε α : Type} {failure : ε → Failure} {answer : α → Answer}
    (h : ∀ a, (answer a).path? = none) (e : Except ε α) :
    (answerOr failure answer e).path? = none := by
  rcases e with _ | a
  · rfl
  · exact h a

lemma path?_loadedConfig (files : FileSystem) (path : Option String) :
    (loadedConfig files path).value.path? = none := by
  rw [loadedConfig]
  rcases (ConfigFile.load Yaml.read files path).value with fault | es
  · rfl
  · dsimp only
    split
    · exact path?_answerOr_eq_none (fun _ => rfl) _
    · rfl

/-- **A question answers with what it is granted.**  Nothing is granted and kept back, and nothing
is handed out that was not granted. -/
theorem grants_requests (s : Session) (q : Query) :
    q.allocator.grants (s.requests q) = (s.ask q).2.value.path?.toList := by
  cases q with
  | resolve i config a sink =>
    rw [ask, path?_answerOr]
    exact (resolve_exit s.files i config a.allocate).grants
  | secureRoot i a p =>
    rw [ask, path?_answerOr]
    exact (resolve_exit s.files i ((p.getD .environment).read s.sources).value a.allocate).grants
  | securityOptions i p a =>
    rw [ask, path?_answerOr]
    exact securityOptions_grants s.files s.sources i p a
  -- All other questions ask for no path, and none of their answers has one.
  | loadConfig path =>
    rw [ask, path?_loadedConfig]
    rfl
  | fileSettings config =>
    rw [ask, Logged.value_silent, path?_answerOr_eq_none fun _ => rfl]
    rfl
  | bestMatch base name policy =>
    rw [ask, path?_answerOr_eq_none fun _ => rfl]
    rfl
  | command arguments =>
    rw [ask, Logged.value_silent, path?_answerOr_eq_none fun _ => rfl]
    rfl
  | _ => rfl

lemma held_ask (s : Session) (q : Query) (name path : String) :
    ((s.ask q).1.pool name).held path = (s.pool name).held path
      + if q.allocator.pool? = some name ∧ (s.ask q).2.value.path? = some path then 1 else 0 := by
  rw [pool_ask, held_hold, grants_requests]
  by_cases hpool : q.allocator.pool? = some name
  · rcases (s.ask q).2.value.path? with _ | there
    · simp
    · simp [hpool, List.count_singleton]
  · simp [hpool]

/-- What a question has handed out can be given back, as if it had never been asked for. -/
lemma release_ask {s : Session} {q : Query} {name path : String}
    (hpool : q.allocator.pool? = some name) (hpath : (s.ask q).2.value.path? = some path) :
    (Turn.mk (s.ask q).1 (.release name path)).answer = .nothing ∧
      ∀ other there, ((Turn.mk (s.ask q).1 (.release name path)).after.pool other).held there
        = (s.pool other).held there := by
  have hask := s.held_ask q
  simp only [hpool, hpath, Option.some_inj] at hask
  have hheld := hask name path
  rw [if_pos ⟨rfl, rfl⟩] at hheld
  obtain ⟨hafter, hanswer⟩ := (s.ask q).1.turn_release name path
  rw [hafter, hanswer]
  rcases (s.ask q).1.release_cases name path with ⟨p, hp, hrelease⟩ | ⟨hzero, -⟩
  · rw [hrelease]
    exact ⟨rfl, fun other there => Nat.add_right_cancel
      ((held_setPool_of_release hp other there).trans (hask other there))⟩
  · omega

/-! ## Giving back -/

/-- A path can be given back as often as it is held. -/
lemma run_releases (s : Session) (name path : String) (n : ℕ) (h : n ≤ (s.pool name).held path) :
    (∀ report ∈ (s.run (List.replicate n (.release name path))).2, report.answer = .nothing) ∧
      ((s.run (List.replicate n (.release name path))).1.pool name).held path + n
        = (s.pool name).held path := by
  induction n generalizing s with
  | zero =>
    rw [List.replicate_zero, run]
    exact ⟨fun report hmem => absurd hmem List.not_mem_nil, rfl⟩
  | succ n ih =>
    obtain ⟨hafter, hanswer⟩ := s.turn_release name path
    -- The path is held, so the first one succeeds, and enough are left for the others.
    rcases s.release_cases name path with ⟨p, hp, hrelease⟩ | ⟨hzero, -⟩
    · have hheld := held_setPool_of_release hp name path
      rw [if_pos ⟨rfl, rfl⟩] at hheld
      have hnext : (Turn.mk s (.release name path)).after = s.setPool name p := by
        rw [hafter, hrelease]
      obtain ⟨hall, hleft⟩ := ih (Turn.mk s (.release name path)).after (by rw [hnext]; omega)
      rw [List.replicate_succ, run]
      refine ⟨fun report hmem => ?_, ?_⟩
      · rcases List.mem_cons.1 hmem with rfl | hmem
        · exact hanswer.trans (by rw [hrelease])
        · exact hall report hmem
      · rw [hnext] at hleft
        rw [← hheld, ← hleft, Nat.add_assoc, ← hnext]
        rfl
    · omega

/-! ## What a caller may rely on -/

/-- The pools of a session, given the turns that were taken in it. -/
structure Accounted (now : Session) (past : List Turn) : Prop where
  /-- Every path is held as often as it was taken and not returned. -/
  balance : ∀ name path, (now.pool name).held path + (returned past).count (name, path)
    = (taken past).count (name, path)
  /-- No pool lists a path that is not held. -/
  positive : ∀ pool ∈ now.pools, ∀ listed ∈ pool.2.counts, 0 < listed.2
  /-- What is outstanding is the sum of what is held, over all paths that are. -/
  outstanding : ∀ name,
    (now.pool name).outstanding = ((now.pool name).paths.map (now.pool name).held).sum ∧
      (now.pool name).paths.Nodup ∧
      ∀ path, path ∈ (now.pool name).paths ↔ 0 < (now.pool name).held path
  /-- The reports say how much is outstanding. -/
  reported : ∀ name n, (name, n) ∈ now.outstanding → n = (now.pool name).outstanding
  /-- A path can be given back exactly if it is held. -/
  release_iff : ∀ name path,
    (Turn.mk now (.release name path)).answer = .nothing ↔ 0 < (now.pool name).held path
  /-- A path that is not held is refused, and all pools stay as they are. -/
  release_fails : ∀ name path, (now.pool name).held path = 0 →
    (Turn.mk now (.release name path)).answer = .failed (.release ⟨path⟩) ∧
      ∀ other, (Turn.mk now (.release name path)).after.pool other = now.pool other
  /-- A path can be given back as often as it is held, and then not once more. -/
  drains : ∀ name path n, n ≤ (now.pool name).held path →
    (∀ report ∈ (now.run (List.replicate n (.release name path))).2, report.answer = .nothing) ∧
      ((now.run (List.replicate n (.release name path))).1.pool name).held path + n
        = (now.pool name).held path
  /-- Who asks for a path is handed it out, and it is held once more. -/
  allocate : ∀ own there, (Turn.mk now (.allocate own there)).answer = .text there ∧
    ∀ name path, ((Turn.mk now (.allocate own there)).after.pool name).held path
      = (now.pool name).held path + if own = name ∧ there = path then 1 else 0
  /-- A question hands out what its allocator has granted it.  If there is nothing to hand out, as
  nothing was found or the lookup was raised out of, nothing was granted. -/
  granted : ∀ q, q.allocator.grants (now.requests q) = (now.ask q).2.value.path?.toList
  /-- A question that hands out a path of a pool counts this path in this pool once more; any other
  one counts nothing. -/
  ask : ∀ q name path, ((now.ask q).1.pool name).held path = (now.pool name).held path
    + if q.allocator.pool? = some name ∧ (now.ask q).2.value.path? = some path then 1 else 0
  /-- What it has handed out can be given back, and then everything is held as often as before. -/
  undone : ∀ q name path, q.allocator.pool? = some name →
    (now.ask q).2.value.path? = some path →
    (Turn.mk (now.ask q).1 (.release name path)).answer = .nothing ∧
      ∀ other there, ((Turn.mk (now.ask q).1 (.release name path)).after.pool other).held there
        = (now.pool other).held there

lemma WellKept.eq_pool {s : Session} (h : s.WellKept) {e : String × Pool} (he : e ∈ s.pools) :
    s.pool e.1 = e.2 := by
  rw [Session.pool, lookup_eq_some_of_mem h.nodup he, Option.getD_some]

/-- **The accounts of a session are in order at every point**, in threads within threads as well,
if no pool has handed out anything in the beginning. -/
theorem accounted_point {s : Session} {steps : List Step} {start : Session} {done : List Step}
    {past : List Turn} (hs : s.pools = []) (h : Point s steps start done past) :
    Accounted (start.run done).1 past := by
  have hkept : (start.run done).1.WellKept := h.wellKept ⟨by simp [hs], by simp [hs]⟩
  have hempty : ∀ name path, (s.pool name).held path = 0 := fun name path => by
    rw [pool, hs]
    rfl
  have hrelease : ∀ name path, _ := fun name path => (start.run done).1.turn_release name path
  refine ⟨?_, fun e he => (hkept.pools e he).positive, ?_, ?_, ?_, ?_, ?_, ?_, grants_requests _,
    held_ask _, fun q name path => release_ask⟩
  · intro name path
    have hheld := h.held name path
    rw [hempty, Nat.zero_add] at hheld
    exact hheld
  · intro name
    have hpool := hkept.pool name
    exact ⟨hpool.outstanding_eq, hpool.nodup, fun path => hpool.mem_paths_iff⟩
  · intro name n hmem
    obtain ⟨e, he, heq⟩ := List.mem_map.1 hmem
    cases heq
    rw [hkept.eq_pool he]
  · intro name path
    rw [(hrelease name path).2]
    rcases (start.run done).1.release_cases name path with ⟨p, hp, heq⟩ | ⟨hzero, heq⟩ <;> rw [heq]
    · exact ⟨fun _ => Pool.exists_release_iff.1 ⟨p, hp⟩, fun _ => rfl⟩
    · simp [hzero]
  · intro name path hzero
    rw [(hrelease name path).1, (hrelease name path).2]
    rcases (start.run done).1.release_cases name path with ⟨p, hp, -⟩ | ⟨-, heq⟩
    · have hpos := Pool.exists_release_iff.1 ⟨p, hp⟩
      omega
    · rw [heq]
      exact ⟨rfl, fun other => pool_setPool_self _ name other⟩
  · exact fun name path n => run_releases _ name path n
  · intro own there
    refine ⟨rfl, fun name path => ?_⟩
    refine ((start.run done).1.held_hold (.pool own) [there] name path).trans ?_
    simp only [Allocator.pool?, Option.some_inj, List.count_singleton, beq_iff_eq, ite_and]

/-- A session that has just begun. -/
def sampleSession : Session := { files := sampleFiles }

/-- The lookup of the override `k/b`, which the pool `keys` hands out. -/
def sampleLookup : Step :=
  .ask (.resolve ⟨"talker", "/"⟩ ⟨none, some "k/b", .whole⟩ (.pool "keys") true)

/-- A path that was taken by hand, and again by a lookup in a thread, is held twice in the thread. -/
theorem accounted_point_within :
    ((((sampleSession.run [.allocate "keys" "k/b"]).1.fresh.run [sampleLookup]).1.pool
      "keys").held "k/b") = 2 := by
  have hpoint : Point sampleSession
      ([.allocate "keys" "k/b"] ++ .thread ([sampleLookup] ++ [.release "keys" "k/b"]) :: [])
      (sampleSession.run [.allocate "keys" "k/b"]).1.fresh [sampleLookup] _ :=
    .within _ _ _ (.between _ _ _)
  have hbalance := (accounted_point rfl hpoint).balance "keys" "k/b"
  have hreturned : (returned (sampleSession.turns [.allocate "keys" "k/b"] ++
      (sampleSession.run [.allocate "keys" "k/b"]).1.fresh.turns [sampleLookup])).count
        ("keys", "k/b") = 0 := by decide
  have htaken : (taken (sampleSession.turns [.allocate "keys" "k/b"] ++
      (sampleSession.run [.allocate "keys" "k/b"]).1.fresh.turns [sampleLookup])).count
        ("keys", "k/b") = 2 := by decide
  omega

end Session
end Keystore
