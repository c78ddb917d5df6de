/-
What the steps of a session leave alone.

A question changes nothing that questions depend on: the files and the sources stay as
they are (`Session.ask_frame`), and only pools and the error channel may be other ones
afterwards.  The steps that change files are those of the file system, and they keep the
names of entries in order.  So every file system that a session comes upon is well named
if the first one is, in threads as well (`Session.wellNamed_run`).
-/
import Mathlib.Data.List.Basic
import Keystore.Proofs.Association
import Keystore.Proofs.FileSystem.Names
import Keystore.Session

namespace Keystore
namespace Session

/-! ## Pools -/

/-- Writing the entry that a list has under a name. -/
lemma lookup_map_entry (pools : List (String × Pool)) (name other : String) (p : Pool) :
    (pools.map fun e => if e.1 = name then (name, p) else e).lookup other
      = if other = name then (pools.lookup name).map fun _ => p else pools.lookup other := by
  induction pools with
  | nil => simp
  | cons e rest ih =>
    obtain ⟨key, q⟩ := e
    rw [List.map_cons, lookup_cons_eq_ite key name q rest, lookup_cons_eq_ite key other q rest]
    by_cases hkey : key = name
    · rw [if_pos hkey, lookup_cons_eq_ite, ih, hkey]
      by_cases hother : other = name <;> simp [hother]
    · have hne : name ≠ key := fun h => hkey h.symm
      rw [if_neg hkey, lookup_cons_eq_ite, ih]
      by_cases hother : other = name <;> simp [hother, hne]

lemma any_name_iff {pools : List (String × Pool)} {name : String} :
    (pools.any (·.1 = name)) = true ↔ ∃ p, pools.lookup name = some p := by
  induction pools with
  | nil => simp
  | cons e rest ih =>
    obtain ⟨key, q⟩ := e
    rw [List.any_cons, Bool.or_eq_true, ih, lookup_cons_eq_ite]
    by_cases hkey : name = key
    · simp [hkey]
    · have hne : key ≠ name := fun h => hkey h.symm
      simp [hkey, hne]

/-- Setting a pool makes it known, and changes this pool only. -/
lemma lookup_setPool (s : Session) (name other : String) (p : Pool) :
    (s.setPool name p).pools.lookup other
      = if other = name then some p else s.pools.lookup other := by
  rw [setPool]
  split
  · next hany =>
    obtain ⟨q, hq⟩ := any_name_iff.1 hany
    rw [lookup_map_entry, hq]
    rfl
  · next hany =>
    have hnone : s.pools.lookup name = none := by
      rw [any_name_iff] at hany
      simpa [Option.eq_none_iff_forall_ne_some] using hany
    rw [List.lookup_append, lookup_cons_eq_ite]
    by_cases hother : other = name <;> simp [hother, hnone]

lemma pool_setPool (s : Session) (name other : String) (p : Pool) :
    (s.setPool name p).pool other = if other = name then p else s.pool other := by
  rw [pool, lookup_setPool, pool]
  split <;> rfl

/-! ## What a question leaves alone -/

section Frame

variable (s : Session) (a : Allocator) (paths texts : List String)

lemma setPool_frame (name : String) (p : Pool) :
    (s.setPool name p).files = s.files ∧ (s.setPool name p).sources = s.sources ∧
      (s.setPool name p).lastError = s.lastError := by
  rw [setPool]
  split <;> exact ⟨rfl, rfl, rfl⟩

lemma hold_frame :
    (s.hold a paths).files = s.files ∧ (s.hold a paths).sources = s.sources ∧
      (s.hold a paths).lastError = s.lastError := by
  cases a with
  | pool name => exact s.setPool_frame name _
  | _ => exact ⟨rfl, rfl, rfl⟩

lemma report_frame :
    (s.report texts).files = s.files ∧ (s.report texts).sources = s.sources ∧
      (s.report texts).pools = s.pools := by
  rw [report]
  split <;> exact ⟨rfl, rfl, rfl⟩

lemma withFiles_frame (change : Except PathFault FileSystem) :
    (s.withFiles change).1.sources = s.sources ∧ (s.withFiles change).1.pools = s.pools ∧
      (s.withFiles change).1.lastError = s.lastError := by
  rcases change with fault | files <;> exact ⟨rfl, rfl, rfl⟩

lemma release_frame (name path : String) :
    (s.release name path).1.files = s.files ∧ (s.release name path).1.sources = s.sources ∧
      (s.release name path).1.lastError = s.lastError := by
  rw [release]
  split <;> exact s.setPool_frame name _

/-- Handing out nothing takes nothing out of a pool. -/
lemma pool_hold_nil (name : String) : (s.hold a []).pool name = s.pool name := by
  cases a with
  | pool own =>
    rw [hold, pool_setPool]
    split
    · next h => rw [h, List.foldl_nil]
    · rfl
  | _ => rfl

/-- A question changes neither files nor sources. -/
lemma ask_frame (q : Query) :
    (s.ask q).1.files = s.files ∧ (s.ask q).1.sources = s.sources := by
  cases q with
  | resolve i config a sink =>
    exact ⟨(s.hold_frame a _).1, (s.hold_frame a _).2.1⟩
  | secureRoot i a p =>
    rw [ask]
    dsimp only
    rw [(report_frame _ _).1, (report_frame _ _).2.1, (s.hold_frame a _).1, (s.hold_frame a _).2.1]
    exact ⟨rfl, rfl⟩
  | securityOptions i p a =>
    exact ⟨(s.hold_frame a _).1, (s.hold_frame a _).2.1⟩
  | _ => exact ⟨rfl, rfl⟩

end Frame

/-! ## The names of entries in a session -/

lemma wellNamed_withFiles {s : Session} (h : s.files.WellNamed) {change : Except PathFault FileSystem}
    (hchange : ∀ files, change = .ok files → files.WellNamed) :
    (s.withFiles change).1.files.WellNamed := by
  rcases change with fault | files
  · exact h
  · exact hchange files rfl

mutual

/-- A step keeps the names of entries in order. -/
theorem wellNamed_step {s : Session} (h : s.files.WellNamed) (next : Step) :
    (s.step next).1.files.WellNamed := by
  cases next with
  -- Three steps change the files, and a thread may contain them; all others leave them alone.
  | build tree =>
    simp only [step, told]
    exact wellNamed_withFiles h fun _ hbuild => h.build hbuild
  | remove path =>
    simp only [step, told]
    exact wellNamed_withFiles h fun _ hremove => h.remove hremove
  | rename source target =>
    simp only [step, told]
    exact wellNamed_withFiles h fun _ hrename => h.rename hrename
  | allocate pool path =>
    have hframe := s.hold_frame (.pool pool) [path]
    exact hframe.1 ▸ h
  | release pool path =>
    have hframe := s.release_frame pool path
    exact hframe.1 ▸ h
  | ask q =>
    have hframe := s.ask_frame q
    exact hframe.1 ▸ h
  | thread steps => exact wellNamed_run (s := { s with lastError := "" }) h steps
  | _ => exact h

/-- **Every file system that a session comes upon is well named**, if the first one is. -/
theorem wellNamed_run {s : Session} (h : s.files.WellNamed) (steps : List Step) :
    (s.run steps).1.files.WellNamed := by
  cases steps with
  | nil => exact h
  | cons next rest => exact wellNamed_run (wellNamed_step h next) rest

end

end Session
end Keystore
