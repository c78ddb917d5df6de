/-
Searching the root directory.

The search of a root ends in one of two ways where its base is a directory and everything
that the base lists can be examined.  If there are candidates, the path of the winner is
handed out; if there are none, the lookup fails because nothing matches.  `Searched`
collects what a caller may rely on, and `resolve_searched` proves it for all files,
identities and policies.

The path that is handed out is text, and whoever uses it reads it again.  Reading gives
the path of the winner back (`ofString_render_append`), because the base is proper and the
names of entries are.  So the text leads to the directory that the search has seen, and
used as an override it is taken as it is.
-/
import Mathlib.Data.List.Basic
import Keystore.Proofs.Lookup.Verdict
import Keystore.Proofs.Scan

namespace Keystore

/-! ## The path of an entry -/

namespace Path

variable {base : Path} {name : String}

/-- The text of the path of an entry is read as this path. -/
lemma ofString_render_append (hbase : base.Proper) (hname : isEntryName name) :
    ofString (base.append [name]).render = base.child name := by
  rw [← append_singleton (ne_dot_of_isEntryName hname)]
  refine ofString_render (hbase.append fun n hn => ?_)
  rw [List.mem_singleton.1 hn]
  exact isPiece_of_isEntryName hname

/-- The text of the path of an entry is not empty. -/
lemma render_append_ne_empty (hbase : base.Proper) (hname : isEntryName name) :
    (base.append [name]).render ≠ "" := by
  intro hempty
  have hread := ofString_render_append hbase hname
  rw [hempty] at hread
  have hnames : ([] : List String) = base.names ++ [name] := congrArg names hread
  simp at hnames

end Path

namespace FileSystem

variable {fs : FileSystem} {base : Path}

lemma IsSubdirectory.isEntryName (hfs : fs.WellNamed) {name : String}
    (h : fs.IsSubdirectory base name) : isEntryName name := by
  obtain ⟨names, hlisting, hmem⟩ := h.listed
  rw [listing] at hlisting
  rcases hplace : fs.locate base with fault | place <;> rw [hplace] at hlisting
  · cases hlisting
  · rcases hentry : fs.entry? place with _ | _ | _ | _ <;> simp only [hentry] at hlisting <;>
      cases hlisting
    exact hfs place name hmem

end FileSystem

/-! ## The verdict on a search -/

section Verdict

variable {fs : FileSystem} {i : Identity} {base : Path} {policy : MatchPolicy}

/-- What a search delivers is the path of the winner. -/
lemma exists_winner_of_deliver {path : String}
    (h : searchVerdict fs i base policy = .deliver path) :
    ∃ name, fs.Winner base policy i.name name ∧ path = (base.append [name]).render := by
  rw [searchVerdict] at h
  rcases hbase : fs.isDirectory base with fault | _ | _ <;> simp only [hbase] at h
  · cases h
  · cases h
  · rcases hscan : (fs.bestMatch base i.name policy).value with fault | _ | name <;>
      simp only [hscan] at h <;> cases h
    exact ⟨name, (FileSystem.bestMatch_eq_some_iff hscan).1 rfl, rfl⟩

/-- What a search delivers is read as the path of a directory below the base. -/
lemma exists_subdirectory_of_deliver (hfs : fs.WellNamed) (hproper : base.Proper) {path : String}
    (h : searchVerdict fs i base policy = .deliver path) :
    path ≠ "" ∧ ∃ name, fs.IsSubdirectory base name ∧ Path.ofString path = base.child name := by
  obtain ⟨name, hname, rfl⟩ := exists_winner_of_deliver h
  have hentry := hname.candidate.subdirectory.isEntryName hfs
  exact ⟨Path.render_append_ne_empty hproper hentry, name, hname.candidate.subdirectory,
    Path.ofString_render_append hproper hentry⟩

variable (hbase : fs.isDirectory base = .ok true) (hexam : fs.Examinable base)

include hbase hexam

/-- Where there are candidates, the search delivers the path of one of them. -/
lemma searchVerdict_of_candidate {name : String} (h : fs.Candidate base policy i.name name) :
    ∃ best, fs.Winner base policy i.name best ∧
      searchVerdict fs i base policy = .deliver (base.append [best]).render := by
  obtain ⟨result, hscan⟩ := FileSystem.exists_bestMatch hbase hexam i.name policy
  rcases result with _ | best
  · exact absurd h ((FileSystem.bestMatch_eq_none_iff hscan).1 rfl name)
  · refine ⟨best, (FileSystem.bestMatch_eq_some_iff hscan).1 rfl, ?_⟩
    simp only [searchVerdict, hbase, hscan]

/-- Where there are none, nothing matches. -/
lemma searchVerdict_of_no_candidate (h : ¬ ∃ name, fs.Candidate base policy i.name name) :
    searchVerdict fs i base policy = .fail .noMatch (Diagnostic.noMatch base i.name policy) := by
  obtain ⟨result, hscan⟩ := FileSystem.exists_bestMatch hbase hexam i.name policy
  rcases result with _ | best
  · simp only [searchVerdict, hbase, hscan]
  · exact absurd ⟨best, ((FileSystem.bestMatch_eq_some_iff hscan).1 rfl).candidate⟩ h

/-- **What a search delivers.**  It is the path of the winner, and nothing else. -/
lemma searchVerdict_eq_deliver_iff {path : String} :
    searchVerdict fs i base policy = .deliver path ↔
      ∃ name, fs.Winner base policy i.name name ∧ path = (base.append [name]).render := by
  constructor
  · exact exists_winner_of_deliver
  · rintro ⟨name, hname, rfl⟩
    obtain ⟨best, hbest, hdeliver⟩ := searchVerdict_of_candidate hbase hexam hname.candidate
    rw [hname.unique hbest]
    exact hdeliver

end Verdict

/-! ## The outcome of a search -/

/-- What a caller may rely on when the base has been searched for a node: how the lookup has
ended, and what the path is that it has found. -/
structure Searched (fs : FileSystem) (base : Path) (policy : MatchPolicy) (node : String)
    (allocate : String → Except AllocationFault String)
    (outcome : Except LookupFault LookupResult) : Prop where
  /-- Something is found exactly if there is a candidate. -/
  found_iff : (∃ path, outcome = .ok (.found path)) ↔ ∃ name, fs.Candidate base policy node name
  /-- What is found is the path of the longest candidate. -/
  found_eq_iff : ∀ path, outcome = .ok (.found path) ↔
    ∃ name, fs.Winner base policy node name ∧ path = (base.append [name]).render
  /-- Without a candidate, nothing matches. -/
  noMatch : (¬ ∃ name, fs.Candidate base policy node name) →
    outcome = .ok (.notFound .noMatch (Diagnostic.noMatch base node policy))
  /-- What is found is read as a path that goes on from the base by one name. -/
  child : ∀ path, outcome = .ok (.found path) → ∃ name, Path.ofString path = base.child name
  /-- What is found is a directory. -/
  isDirectory : ∀ path, outcome = .ok (.found path) → fs.isDirectory (.ofString path) = .ok true
  /-- What is found is found again by any lookup with that override. -/
  override : ∀ path, outcome = .ok (.found path) → ∀ (i : Identity) (config : LookupConfig),
    config.override = some path → (resolve fs i config allocate).outcome = .ok (.found path)
  /-- A directory below the base is an entry of the place that the base stands for: a directory,
  or a link that leads to one. -/
  subdirectory_iff : ∀ place, fs.locate base = .ok place → ∀ name,
    fs.IsSubdirectory base name ↔
      name ∈ fs.children place ∧
        (fs.entry? (place ++ [name]) = some .directory ∨
          ∃ target there, fs.entry? (place ++ [name]) = some (.link target) ∧
            fs.locate (base.child name) = .ok there ∧ fs.entry? there = some .directory)
  /-- A name that no entry can have matches nothing if whole names are compared. -/
  noMatch_of_name : policy = .whole → '/' ∈ node.toList ∨ node = "." ∨ node = ".." →
    outcome = .ok (.notFound .noMatch (Diagnostic.noMatch base node policy))

/-- A name with a slash, or one that stands for a directory, is no candidate's name. -/
lemma not_candidate_of_name {fs : FileSystem} {base : Path} {node : String} (hfs : fs.WellNamed)
    (hnode : '/' ∈ node.toList ∨ node = "." ∨ node = "..") :
    ¬ ∃ name, fs.Candidate base .whole node name := by
  rintro ⟨name, hsub, rfl⟩
  have hname := hsub.isEntryName hfs
  rcases hnode with hslash | hdot | hdotdot
  · exact (isPiece_of_isEntryName hname).2 hslash
  · exact ne_dot_of_isEntryName hname hdot
  · exact ne_dotdot_of_isEntryName hname hdotdot

/-- What is found by a search is what the verdict on its base delivers. -/
lemma resolve_eq_found_iff {fs : FileSystem} {i : Identity} {config : LookupConfig} {root : String}
    {allocate : String → Except AllocationFault String} (hconfig : config.Searches root)
    (hi : i.fault? = none) (hallocate : ∀ path, allocate path = .ok path) (path : String) :
    (resolve fs i config allocate).outcome = .ok (.found path) ↔
      searchVerdict fs i (i.baseUnder root) config.policy = .deliver path := by
  rw [resolve_outcome, verdict_of_searches hconfig hi, Verdict.outcome_eq_found_iff hallocate]

/-- A directory as an override is found, whoever is looked up. -/
lemma resolve_override_eq_found {fs : FileSystem} {allocate : String → Except AllocationFault String}
    (hallocate : ∀ path, allocate path = .ok path) {path : String} (hne : path ≠ "")
    (hdir : fs.isDirectory (.ofString path) = .ok true) (i : Identity) {config : LookupConfig}
    (hconfig : config.override = some path) :
    (resolve fs i config allocate).outcome = .ok (.found path) := by
  have hset : nonempty? config.override = some path := nonempty?_eq_some_iff.2 ⟨hconfig, hne⟩
  rw [resolve_outcome, verdict_of_override hset, overrideVerdict_eq_deliver hdir,
    Verdict.outcome_eq_found_iff hallocate]

/-- **Searching the root directory.**  If the base is a directory and all that it lists can be
examined, the search finds the longest candidate, and nothing if there is none. -/
theorem resolve_searched {fs : FileSystem} {i : Identity} {config : LookupConfig} {root : String}
    {allocate : String → Except AllocationFault String} (hfs : fs.WellNamed)
    (hconfig : config.Searches root) (hi : i.fault? = none)
    (hallocate : ∀ path, allocate path = .ok path)
    (hbase : fs.isDirectory (i.baseUnder root) = .ok true)
    (hexam : fs.Examinable (i.baseUnder root)) :
    Searched fs (i.baseUnder root) config.policy i.name allocate
      (resolve fs i config allocate).outcome := by
  have hfound : ∀ path, (resolve fs i config allocate).outcome = .ok (.found path) ↔
      searchVerdict fs i (i.baseUnder root) config.policy = .deliver path :=
    resolve_eq_found_iff hconfig hi hallocate
  have hread : ∀ path, (resolve fs i config allocate).outcome = .ok (.found path) →
      path ≠ "" ∧ ∃ name, fs.IsSubdirectory (i.baseUnder root) name ∧
        Path.ofString path = (i.baseUnder root).child name := fun path hpath =>
    exists_subdirectory_of_deliver hfs (i.proper_baseUnder root) ((hfound path).1 hpath)
  have hdir : ∀ path, (resolve fs i config allocate).outcome = .ok (.found path) →
      fs.isDirectory (.ofString path) = .ok true := by
    intro path hpath
    obtain ⟨-, name, hname, heq⟩ := hread path hpath
    rw [heq]
    exact hname.leads
  have hnone : (¬ ∃ name, fs.Candidate (i.baseUnder root) config.policy i.name name) →
      (resolve fs i config allocate).outcome
        = .ok (.notFound .noMatch (Diagnostic.noMatch (i.baseUnder root) i.name config.policy)) := by
    intro hno
    rw [resolve_outcome, verdict_of_searches hconfig hi,
      searchVerdict_of_no_candidate hbase hexam hno]
    rfl
  -- Finding something, what is found, its text as a path and as an override, and whom no search
  -- can find.
  refine ⟨⟨?_, ?_⟩, ?_, hnone, ?_, hdir, ?_, ?_, ?_⟩
  · rintro ⟨path, hpath⟩
    obtain ⟨name, hname, -⟩ := exists_winner_of_deliver ((hfound path).1 hpath)
    exact ⟨name, hname.candidate⟩
  · rintro ⟨name, hname⟩
    obtain ⟨best, -, hdeliver⟩ := searchVerdict_of_candidate hbase hexam hname
    exact ⟨_, (hfound _).2 hdeliver⟩
  · exact fun path => (hfound path).trans (searchVerdict_eq_deliver_iff hbase hexam)
  · intro path hpath
    obtain ⟨-, name, -, heq⟩ := hread path hpath
    exact ⟨name, heq⟩
  · intro path hpath j config' hoverride
    exact resolve_override_eq_found hallocate (hread path hpath).1 (hdir path hpath) j hoverride
  · intro place hplace
    obtain ⟨place', hplace', hentry⟩ := FileSystem.isDirectory_eq_true_iff.1 hbase
    rw [hplace] at hplace'
    cases hplace'
    exact FileSystem.isSubdirectory_iff_of_locate hfs hexam hplace hentry
  · intro hpolicy hname
    refine hnone ?_
    rw [hpolicy]
    exact not_candidate_of_name hfs hname

/-- A keystore below the working directory `/home`: in its directory `b` are a directory that has
another one in it, a link to the first one, a file, and a link to itself. -/
def sampleFiles : FileSystem where
  entries :=
    [(["home"], .directory),
      (["home", "k"], .directory), (["home", "k", "b"], .directory),
      (["home", "k", "b", "talker"], .directory),
      (["home", "k", "b", "talker", "talker_42"], .directory),
      (["home", "k", "b", "talker_4"], .link "talker"),
      (["home", "k", "b", "talker_42"], .file []),
      (["home", "k", "b", "talk"], .link "talk")]
  workingDirectory := ["home"]

lemma wellNamed_sampleFiles : sampleFiles.WellNamed := by
  have hbuild : (FileSystem.bare ["home"]).build
      [.directory "k/b/talker/talker_42", .link "k/b/talker_4" "talker", .file "k/b/talker_42" [],
        .link "k/b/talk" "talk"] = .ok sampleFiles := by decide
  exact (FileSystem.wellNamed_bare (by decide)).build hbuild

/-- The link is found, whose name is the longest of those that belong to directories. -/
theorem resolve_searched_sampleFiles :
    (resolve sampleFiles ⟨"talker_42", "/b/"⟩ ⟨some "k", none, .beginning⟩
      (Allocator.pool "keys").allocate).outcome = .ok (.found "k/b/talker_4") := by
  have hbase : (Identity.mk "talker_42" "/b/").baseUnder "k" = .ofString "k/b" := by decide
  have hdir : sampleFiles.isDirectory (.ofString "k/b") = .ok true := by decide
  have hsub : sampleFiles.subdirectories (.ofString "k/b") = .ok ["talker", "talker_4"] := by decide
  have hsearched := @resolve_searched sampleFiles ⟨"talker_42", "/b/"⟩
    ⟨some "k", none, .beginning⟩ "k" (Allocator.pool "keys").allocate wellNamed_sampleFiles
    ⟨rfl, rfl⟩ (by decide) (fun _ => rfl)
  rw [hbase] at hsearched
  have hfound := (hsearched hdir ((FileSystem.exists_subdirectories_iff hdir).1 ⟨_, hsub⟩)).found_eq_iff
  have hmem := FileSystem.mem_subdirectories hsub
  refine (hfound _).2 ⟨"talker_4", ⟨⟨(hmem _).1 (by decide), ?_⟩, ?_⟩, by decide⟩
  · exact MatchPolicy.accepts_eq_true_iff.1 (by decide)
  · -- The only other subdirectory has a shorter name.
    intro other hother hne
    have hin := (hmem other).2 hother.subdirectory
    rw [List.mem_cons, List.mem_singleton] at hin
    rcases hin with rfl | rfl
    · decide
    · exact absurd rfl hne

end Keystore
