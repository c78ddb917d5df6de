/-
What a lookup raises.

What is wrong with a keystore is a result of the lookup, with a cause and a diagnostic, and
a malformed identity is raised.  With an allocator that only ever runs out of room, that
should be all.  It is not: before the scan a lookup examines one path, the override or
else the base of the identity, and nobody takes care of the fault that this may meet.  A
name or a path that is too long is such a fault, the only one (`isDirectory_eq_error_iff`),
and it escapes as it is.  `resolve_returns_iff` says that this happens exactly if following
the examined path meets a length that is too great.  The faults of the scan are taken care
of: they come back as a base that cannot be read.
-/
import Mathlib.Data.List.Basic
import Keystore.Proofs.FileSystem.Walk
import Keystore.Proofs.Lookup.Verdict

namespace Keystore

variable {fs : FileSystem} {i : Identity} {config : LookupConfig} {fault : LookupFault}

/-- The path that a lookup examines before anything else: the override if there is one, and
otherwise the base of the identity, unless there is no root or the identity is malformed. -/
def examined? (i : Identity) (config : LookupConfig) : Option Path :=
  match nonempty? config.override with
  | some override => some (.ofString override)
  | none => if i.fault? = none then (nonempty? config.rootDirectory).map i.baseUnder else none

/-! ## Verdicts that raise -/

lemma overrideVerdict_eq_raise_iff {override : String} :
    overrideVerdict fs override = .raise fault ↔
      fs.locate (.ofString override) = .error .nameTooLong ∧
        fault = .path ⟨.nameTooLong, .ofString override⟩ := by
  unfold overrideVerdict
  rcases hdir : fs.isDirectory (.ofString override) with fault' | _ | _
  · obtain ⟨hlong, rfl⟩ := FileSystem.isDirectory_eq_error_iff.1 hdir
    simp [hlong, eq_comm]
  · simp [FileSystem.locate_ne_nameTooLong hdir]
  · simp [FileSystem.locate_ne_nameTooLong hdir]

lemma searchVerdict_eq_raise_iff {base : Path} {policy : MatchPolicy} :
    searchVerdict fs i base policy = .raise fault ↔
      fs.locate base = .error .nameTooLong ∧ fault = .path ⟨.nameTooLong, base⟩ := by
  unfold searchVerdict
  rcases hdir : fs.isDirectory base with fault' | _ | _
  · obtain ⟨hlong, rfl⟩ := FileSystem.isDirectory_eq_error_iff.1 hdir
    simp [hlong, eq_comm]
  · simp [FileSystem.locate_ne_nameTooLong hdir]
  · -- The scan comes after the examination, and whatever it meets is no reason to raise.
    rcases (fs.bestMatch base i.name policy).value with fault' | _ | name <;>
      simp [FileSystem.locate_ne_nameTooLong hdir]

/-- **When a lookup is raised out of.**  The examined path is too long to be followed, or else
the identity is needed and is malformed. -/
theorem verdict_eq_raise_iff :
    verdict fs i config = .raise fault ↔
      (∃ path, examined? i config = some path ∧ fs.locate path = .error .nameTooLong ∧
        fault = .path ⟨.nameTooLong, path⟩) ∨
      (nonempty? config.override = none ∧ ∃ f, i.fault? = some f ∧ fault = .identity f) := by
  rcases hoverride : nonempty? config.override with _ | override
  · rcases hi : i.fault? with _ | f
    · rcases hroot : nonempty? config.rootDirectory with _ | root
      · simp [verdict, examined?, hoverride, hi, hroot]
      · rw [verdict_of_searches ⟨hoverride, hroot⟩ hi, searchVerdict_eq_raise_iff]
        simp [examined?, hoverride, hi, hroot]
    · simp [verdict, examined?, hoverride, hi, eq_comm]
  · rw [verdict_of_override hoverride, overrideVerdict_eq_raise_iff]
    simp [examined?, hoverride]

/-! ## Lookups that raise -/

/-- An allocator that only ever runs out of room raises nothing. -/
lemma Verdict.outcome_eq_error_iff {allocate : String → Except AllocationFault String}
    (hallocate : ∀ path fault, allocate path = .error fault → ∃ detail, fault = .exhausted detail)
    {v : Verdict} : v.outcome allocate = .error fault ↔ v = .raise fault := by
  cases v with
  | raise fault' => simp [outcome]
  | fail cause diagnostic => simp [outcome]
  | deliver path =>
    rcases hpath : allocate path with fault' | owned
    · obtain ⟨detail, rfl⟩ := hallocate path fault' hpath
      simp [outcome, hpath]
    · simp [outcome, hpath]

/-- **When a lookup keeps to its word.**  With an allocator that only ever runs out of room, a
lookup has a result or raises a malformed identity, unless the examined path meets a length that
is too great.  Then, and only then, the fault of this path escapes.  A fault of the scan never
does: it makes a base that cannot be read. -/
theorem resolve_returns_iff {allocate : String → Except AllocationFault String}
    (hallocate : ∀ path fault, allocate path = .error fault →
      ∃ detail, fault = .exhausted detail) :
    (((∃ result, (resolve fs i config allocate).outcome = .ok result) ∨
        ∃ f, (resolve fs i config allocate).outcome = .error (.identity f)) ↔
      ∀ path, examined? i config = some path → fs.locate path ≠ .error .nameTooLong) ∧
    (∀ path, examined? i config = some path → fs.locate path = .error .nameTooLong →
      (resolve fs i config allocate).outcome = .error (.path ⟨.nameTooLong, path⟩)) ∧
    (∀ root f, config.Searches root → i.fault? = none →
      fs.isDirectory (i.baseUnder root) = .ok true →
      (fs.bestMatch (i.baseUnder root) i.name config.policy).value = .error f →
      (resolve fs i config allocate).outcome
        = .ok (.notFound .baseNotFound (Diagnostic.baseUnreadable (i.baseUnder root) f))) := by
  have hraise : ∀ fault, (resolve fs i config allocate).outcome = .error fault ↔
      verdict fs i config = .raise fault := fun fault => by
    rw [resolve_outcome, Verdict.outcome_eq_error_iff hallocate]
  have hescape : ∀ path, examined? i config = some path → fs.locate path = .error .nameTooLong →
      (resolve fs i config allocate).outcome = .error (.path ⟨.nameTooLong, path⟩) :=
    fun path hpath hlong => (hraise _).2 (verdict_eq_raise_iff.2 (Or.inl ⟨path, hpath, hlong, rfl⟩))
  refine ⟨⟨?_, ?_⟩, hescape, ?_⟩
  · -- A fault of the path is neither a result nor a malformed identity.
    rintro hreturns path hpath hlong
    have hfault := hescape path hpath hlong
    rcases hreturns with ⟨result, hresult⟩ | ⟨f, hf⟩
    · rw [hfault] at hresult
      cases hresult
    · rw [hfault] at hf
      cases hf
  · intro hshort
    rcases houtcome : (resolve fs i config allocate).outcome with fault | result
    · rcases verdict_eq_raise_iff.1 ((hraise fault).1 houtcome) with
        ⟨path, hpath, hlong, -⟩ | ⟨-, f, -, rfl⟩
      · exact absurd hlong (hshort path hpath)
      · exact Or.inr ⟨f, rfl⟩
    · exact Or.inl ⟨result, rfl⟩
  · intro root f hconfig hi hbase hscan
    rw [resolve_outcome, verdict_of_searches hconfig hi]
    simp only [searchVerdict, hbase, hscan, Verdict.outcome]

/-- Without a keystore, a lookup with an allocator that is out of room has a result. -/
theorem resolve_returns_iff_bare :
    (∃ result, (resolve (.bare ["home"]) ⟨"talker", "/a"⟩ ⟨some "k", none, .whole⟩
        (Allocator.refusing (.exhausted "full")).allocate).outcome = .ok result) ∨
      ∃ f, (resolve (.bare ["home"]) ⟨"talker", "/a"⟩ ⟨some "k", none, .whole⟩
        (Allocator.refusing (.exhausted "full")).allocate).outcome = .error (.identity f) := by
  refine (resolve_returns_iff ?_).1.2 ?_
  · rintro path fault h
    cases h
    exact ⟨"full", rfl⟩
  · rintro path h
    cases h
    decide

/-! ## An override that is too long -/

/-- The text of `n` letters. -/
def letters (n : ℕ) : String := String.ofList (List.replicate n 'x')

lemma utf8ByteSize_letters (n : ℕ) : (letters n).utf8ByteSize = n := by
  induction n with
  | zero => rfl
  | succ n ih =>
    rw [letters] at ih
    rw [letters, List.replicate_succ, String.ofList_cons, String.utf8ByteSize_append, ih,
      String.utf8ByteSize_singleton, show 'x'.utf8Size = 1 from rfl, Nat.add_comm]

lemma isEntryName_letters {n : ℕ} (h : n ≠ 0) : isEntryName (letters n) := by
  have hchar : ∀ c ∈ (letters n).toList, c = 'x' := fun c hc => by
    rw [letters, String.toList_ofList] at hc
    exact List.eq_of_mem_replicate hc
  have hne : ∀ text : String, 'x' ∉ text.toList → letters n ≠ text := by
    rintro _ htext rfl
    exact htext (by simp [letters, h])
  have hslash : '/' ∉ (letters n).toList := fun hmem => absurd (hchar _ hmem) (by decide)
  have hnul : '\x00' ∉ (letters n).toList := fun hmem => absurd (hchar _ hmem) (by decide)
  simp [isEntryName, hne "" (by decide), hne "." (by decide), hne ".." (by decide), hslash, hnul]

/-- A path of one name that is too long is not followed, whatever the files. -/
lemma FileSystem.locate_overlong {name : String} (hname : isEntryName name)
    (hlong : nameLimit < name.utf8ByteSize) :
    fs.locate (.ofString name) = .error .nameTooLong := by
  have hread : Path.ofString name = ⟨.here, [name]⟩ := by
    have hproper : (⟨.here, [name]⟩ : Path).Proper := fun n hn => by
      rw [List.mem_singleton.1 hn]
      exact ⟨isPiece_of_isEntryName hname, ne_dot_of_isEntryName hname⟩
    simpa [Path.render, joinSlash, Origin.text] using Path.ofString_render hproper
  have hnul : ¬ (Path.mk .here [name]).render.toList.contains '\x00' := by
    rw [List.contains_eq_mem, decide_eq_true_eq, Path.mem_render_iff (by decide) (by decide)]
    simpa using nul_notMem_of_isEntryName hname
  have hwork : fs.entry? fs.workingDirectory = some .directory := by simp [ entry?]
  rw [hread, locate, if_neg hnul]
  split
  · rfl
  · rw [walk, start, stretch, if_neg (by simp [hwork]), if_neg (ne_dot_of_isEntryName hname),
      if_neg (ne_dotdot_of_isEntryName hname), if_pos hlong]

/-- An override of one name that is too long is raised and not reported, whatever the files. -/
lemma resolve_overlong {name : String} (hname : isEntryName name)
    (hlong : FileSystem.nameLimit < name.utf8ByteSize) (hconfig : config.override = some name)
    (allocate : String → Except AllocationFault String) :
    (resolve fs i config allocate).outcome = .error (.path ⟨.nameTooLong, .ofString name⟩) := by
  have hset : nonempty? config.override = some name :=
    nonempty?_eq_some_iff.2 ⟨hconfig, (isPiece_of_isEntryName hname).1⟩
  have hraise : overrideVerdict fs name = .raise (.path ⟨.nameTooLong, .ofString name⟩) :=
    overrideVerdict_eq_raise_iff.2 ⟨FileSystem.locate_overlong hname hlong, rfl⟩
  rw [resolve_outcome, verdict_of_override hset, hraise]
  rfl

/-- Without a keystore, a lookup with an override of 256 letters has no result, and raises no
malformed identity either. -/
theorem resolve_raises_overlong :
    ¬ ((∃ result, (resolve (.bare ["home"]) ⟨"talker", "/"⟩ ⟨none, some (letters 256), .whole⟩
          Allocator.untracked.allocate).outcome = .ok result) ∨
        ∃ f, (resolve (.bare ["home"]) ⟨"talker", "/"⟩ ⟨none, some (letters 256), .whole⟩
          Allocator.untracked.allocate).outcome = .error (.identity f)) := by
  have hlong : FileSystem.nameLimit < (letters 256).utf8ByteSize := by
    simp [utf8ByteSize_letters, FileSystem.nameLimit]
  rw [resolve_overlong (isEntryName_letters (by decide)) hlong rfl]
  simp

end Keystore
