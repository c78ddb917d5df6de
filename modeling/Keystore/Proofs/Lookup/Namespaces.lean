/-
Namespaces and directories.

A lookup learns about its namespace through the base alone, but for the wording of one failure: a
base that is missing is reported together with the namespace.  So lookups of the same name in the
same base end alike, however their roots and namespaces part (`resolve_sameGist`), and to go down
by a namespace is to move the root (`resolve_descent`).

In the other direction, what was found with whole names tells the base and the name: its text is
read as a path that goes on from the base by the name of the node.  Under one root, two nodes have
the same directory exactly if they have the same name and their namespaces have the same words
(`namespaces_correspond`).
-/
import Mathlib.Data.List.Basic
import Keystore.Proofs.Lookup.Policies
import Keystore.Proofs.Path.Base

namespace Keystore

variable {fs : FileSystem} {i j : Identity}

/-! ## Lookups in the same base -/

/-- What an outcome tells but for the wording of a failure: the path, or the cause for which there
is none, or the fault that is raised. -/
def gist (outcome : Except LookupFault LookupResult) :
    Except LookupFault (Option String × Option Cause) :=
  outcome.map fun result => (result.path?, result.cause?)

/-- Two lookups in the same base, under the namespaces `scope` and `scope'`, that differ at most in
how they report that the base is missing. -/
structure Resolution.SameGist (r r' : Resolution) (base : Path) (scope scope' : String) : Prop where
  /-- They find the same path, or fail for the same cause, or raise the same fault. -/
  gist : gist r.outcome = gist r'.outcome
  /-- They ask the allocator for the same. -/
  requests : r.requests = r'.requests
  /-- The base is missing if there is any difference. -/
  missing : r.outcome = r'.outcome ∨
    r.outcome = .ok (.notFound .baseNotFound (Diagnostic.baseMissing base scope)) ∧
      r'.outcome = .ok (.notFound .baseNotFound (Diagnostic.baseMissing base scope'))

/-- The search of a base knows the name of the node, and mentions its namespace where the base is
missing. -/
lemma searchVerdict_of_name (hname : i.name = j.name) (base : Path) (policy : MatchPolicy) :
    searchVerdict fs i base policy = searchVerdict fs j base policy ∨
      searchVerdict fs i base policy = .fail .baseNotFound (Diagnostic.baseMissing base i.scope) ∧
        searchVerdict fs j base policy
          = .fail .baseNotFound (Diagnostic.baseMissing base j.scope) := by
  rw [searchVerdict, searchVerdict, hname]
  rcases fs.isDirectory base with fault | _ | _
  · exact Or.inl rfl
  · exact Or.inr ⟨rfl, rfl⟩
  · exact Or.inl rfl

section SameBase

variable {root root' : String} (hroot : root ≠ "") (hroot' : root' ≠ "") (hi : i.fault? = none)
  (hj : j.fault? = none) (hname : i.name = j.name) (hbase : i.baseUnder root = j.baseUnder root')
  (override : Option String) (policy : MatchPolicy)

include hroot hroot' hi hj hname hbase

lemma verdict_of_base (fs : FileSystem) :
    verdict fs i ⟨some root, override, policy⟩ = verdict fs j ⟨some root', override, policy⟩ ∨
      verdict fs i ⟨some root, override, policy⟩
          = .fail .baseNotFound (Diagnostic.baseMissing (i.baseUnder root) i.scope) ∧
        verdict fs j ⟨some root', override, policy⟩
          = .fail .baseNotFound (Diagnostic.baseMissing (i.baseUnder root) j.scope) := by
  rcases hoverride : nonempty? override with _ | text
  · have hsearches : LookupConfig.Searches ⟨some root, override, policy⟩ root :=
      ⟨hoverride, nonempty?_eq_some_iff.2 ⟨rfl, hroot⟩⟩
    have hsearches' : LookupConfig.Searches ⟨some root', override, policy⟩ root' :=
      ⟨hoverride, nonempty?_eq_some_iff.2 ⟨rfl, hroot'⟩⟩
    rw [verdict_of_searches hsearches hi, verdict_of_searches hsearches' hj, ← hbase]
    exact searchVerdict_of_name hname _ policy
  · exact Or.inl ((verdict_of_override hoverride).trans (verdict_of_override hoverride).symm)

/-- **The base is all that a lookup takes from the root and the namespace.** -/
theorem resolve_sameGist (fs : FileSystem) (allocate : String → Except AllocationFault String) :
    (resolve fs i ⟨some root, override, policy⟩ allocate).SameGist
      (resolve fs j ⟨some root', override, policy⟩ allocate)
      (i.baseUnder root) i.scope j.scope := by
  rcases verdict_of_base hroot hroot' hi hj hname hbase override policy fs with
    hsame | ⟨hmissing, hmissing'⟩
  · have hanswer : (resolve fs i ⟨some root, override, policy⟩ allocate).SameAnswer
        (resolve fs j ⟨some root', override, policy⟩ allocate) := resolve_sameAnswer hsame
    exact ⟨congrArg gist hanswer.outcome, hanswer.requests, Or.inl hanswer.outcome⟩
  · have houtcome := resolve_outcome fs i ⟨some root, override, policy⟩ allocate
    have houtcome' := resolve_outcome fs j ⟨some root', override, policy⟩ allocate
    rw [hmissing] at houtcome
    rw [hmissing'] at houtcome'
    refine ⟨?_, ?_, Or.inr ⟨houtcome, houtcome'⟩⟩
    · rw [houtcome, houtcome']
      rfl
    · rw [resolve_requests, resolve_requests, hmissing, hmissing']
      rfl

end SameBase

/-! ## Going down -/

lemma head_scope_of_valid (h : i.fault? = none) : i.scope.toList.head? = some '/' := by
  rw [Identity.fault?, if_neg (name_ne_empty_of_valid h)] at h
  by_contra hhead
  rw [if_neg hhead] at h
  cases h

lemma fault?_root (h : i.fault? = none) : (Identity.mk i.name "/").fault? = none := by
  have hhead : "/".toList.head? = some '/' := by decide
  rw [Identity.fault?, if_neg (name_ne_empty_of_valid h), if_pos hhead]

/-- The base of a namespace is the base of the root namespace below it. -/
lemma baseUnder_root (i : Identity) (name root : String) :
    (Identity.mk name "/").baseUnder (i.baseUnder root).render = i.baseUnder root := by
  have htop : (Identity.mk name "/").inRootScope = true := rfl
  rw [Identity.baseUnder, if_pos htop, Path.ofString_render (i.proper_baseUnder root)]

/-- **To go down by a namespace is to move the root.**  The base of a namespace behind another one
is found from the base of that one.  Lookups end alike, whether the outer namespace stands in
front of the inner one or the root is moved by it, and in the root namespace if the root is moved
all the way. -/
theorem resolve_descent :
    (∀ (root : String) (i outer inner : Identity), inner.scope.toList.head? = some '/' →
      i.scope = outer.scope ++ inner.scope →
      i.baseUnder root = inner.baseUnder (outer.baseUnder root).render) ∧
    (∀ (fs : FileSystem) (root : String) (i outer inner : Identity) override policy allocate,
      root ≠ "" → i.fault? = none → inner.fault? = none → i.name = inner.name →
      i.scope = outer.scope ++ inner.scope →
      (resolve fs i ⟨some root, override, policy⟩ allocate).SameGist
        (resolve fs inner ⟨some (outer.baseUnder root).render, override, policy⟩ allocate)
        (i.baseUnder root) i.scope inner.scope) ∧
    ∀ (fs : FileSystem) (root : String) (i : Identity) override policy allocate,
      root ≠ "" → i.fault? = none →
      (resolve fs i ⟨some root, override, policy⟩ allocate).SameGist
        (resolve fs ⟨i.name, "/"⟩ ⟨some (i.baseUnder root).render, override, policy⟩ allocate)
        (i.baseUnder root) i.scope "/" := by
  refine ⟨fun root i outer inner h hscope => Identity.baseUnder_append root h hscope, ?_, ?_⟩
  · intro fs root i outer inner override policy allocate hroot hi hinner hname hscope
    have hmoved := Path.render_ne_empty (outer.proper_baseUnder root)
    have hbase := Identity.baseUnder_append root (head_scope_of_valid hinner) hscope
    exact resolve_sameGist hroot hmoved hi hinner hname hbase override policy fs allocate
  · intro fs root i override policy allocate hroot hi
    have hmoved := Path.render_ne_empty (i.proper_baseUnder root)
    exact resolve_sameGist hroot hmoved hi (fault?_root hi) rfl (baseUnder_root i i.name root).symm
      override policy fs allocate

/-- With a namespace whose slashes are doubled, and with the root moved to its base. -/
theorem resolve_descent_sampleFiles :
    (Identity.mk "talker" "//.//b/").baseUnder "./k/"
        = (Identity.mk "talker" "//b/").baseUnder
          ((Identity.mk "talker" "//.").baseUnder "./k/").render ∧
      (resolve sampleFiles ⟨"talker", "//.//b/"⟩ ⟨some "./k/", none, .whole⟩
        (Allocator.pool "keys").allocate).SameGist
      (resolve sampleFiles ⟨"talker", "/"⟩ ⟨some "k/b", none, .whole⟩
        (Allocator.pool "keys").allocate) (.ofString "k/b") "//.//b/" "/" := by
  obtain ⟨hbase, -, hlookup⟩ := resolve_descent
  have hmoved := hlookup sampleFiles "./k/" ⟨"talker", "//.//b/"⟩ none .whole
    (Allocator.pool "keys").allocate (by decide) (by decide)
  rw [show (Identity.mk "talker" "//.//b/").baseUnder "./k/" = .ofString "k/b" by decide] at hmoved
  exact ⟨hbase _ _ ⟨"talker", "//."⟩ ⟨"talker", "//b/"⟩ (by decide) (by decide), hmoved⟩

/-! ## Nodes that share a directory -/

/-- What a lookup with whole names finds is the path that goes on from the base by the node's
name. -/
lemma found_whole {config : LookupConfig} {root path : String}
    {allocate : String → Except AllocationFault String} (hfs : fs.WellNamed)
    (hconfig : config.Searches root) (hpolicy : config.policy = .whole) (hi : i.fault? = none)
    (hallocate : ∀ path, allocate path = .ok path)
    (h : (resolve fs i config allocate).outcome = .ok (.found path)) :
    path = ((i.baseUnder root).append [i.name]).render ∧
      Path.ofString path = (i.baseUnder root).child i.name := by
  rw [resolve_eq_found_iff hconfig hi hallocate, hpolicy] at h
  obtain ⟨name, hname, hpath⟩ := exists_winner_of_deliver h
  have heq : name = i.name := hname.candidate.identifies
  rw [heq] at hname hpath
  refine ⟨hpath, ?_⟩
  rw [hpath]
  exact Path.ofString_render_append (i.proper_baseUnder root)
    (hname.candidate.subdirectory.isEntryName hfs)

/-- How the namespaces below a root stand for directories. -/
structure Correspondence (root : String) : Prop where
  /-- A base starts where the root starts. -/
  origin : ∀ i : Identity, (i.baseUnder root).origin = (Path.ofString root).origin
  /-- It goes on by the words of the root and by those of the namespace. -/
  names : ∀ i : Identity, (i.baseUnder root).names = words root ++ words i.scope
  /-- No segment of a namespace leads away from the root. -/
  segments : ∀ i : Identity, ∀ s ∈ i.segments, s.toList.head? ≠ some '/'
  /-- A base is what the segments lead to, one after the other. -/
  joined : ∀ i : Identity, i.baseUnder root = i.segments.foldl Path.join (Path.ofString root)
  /-- The root namespace is no exception to this. -/
  top : ∀ i : Identity, i.inRootScope = true →
    i.segments.foldl Path.join (Path.ofString root) = Path.ofString root
  /-- Two namespaces have the same base exactly if they have the same words. -/
  base_eq_iff : ∀ i j : Identity,
    i.baseUnder root = j.baseUnder root ↔ words i.scope = words j.scope
  /-- The texts of the bases are the same then only. -/
  text_eq_iff : ∀ i j : Identity,
    (i.baseUnder root).render = (j.baseUnder root).render ↔ words i.scope = words j.scope
  /-- Of the nodes that are found, those with the same name and the same words share a path. -/
  found_eq_iff : ∀ (fs fs' : FileSystem) (i j : Identity) (config config' : LookupConfig)
    (allocate : String → Except AllocationFault String) (path path' : String),
    fs.WellNamed → fs'.WellNamed → config.Searches root → config'.Searches root →
    config.policy = .whole → config'.policy = .whole → i.fault? = none → j.fault? = none →
    (∀ path, allocate path = .ok path) →
    (resolve fs i config allocate).outcome = .ok (.found path) →
    (resolve fs' j config' allocate).outcome = .ok (.found path') →
    (path = path' ↔ i.name = j.name ∧ words i.scope = words j.scope)

/-- **Namespaces and directories correspond**, below every root. -/
theorem namespaces_correspond (root : String) : Correspondence root := by
  have htop : ∀ i : Identity, i.inRootScope = true → i.baseUnder root = Path.ofString root :=
    fun i h => by rw [Identity.baseUnder, if_pos h]
  refine ⟨fun i => i.origin_baseUnder root, fun i => ?_, fun i s hs hhead => ?_,
    fun i => i.baseUnder_eq_join root, fun i h => ?_, fun i j => Identity.baseUnder_eq_iff,
    fun i j => ?_, ?_⟩
  · rw [i.names_baseUnder root, ← namesOf_eq_words root]
    rfl
  · exact (Identity.isPiece_of_mem_segments hs).2 (List.mem_of_head? hhead)
  · rw [← i.baseUnder_eq_join root, htop i h]
  · rw [Path.render_eq_render_iff (i.proper_baseUnder root) (j.proper_baseUnder root),
      Identity.baseUnder_eq_iff]
  · intro fs fs' i j config config' allocate path path' hfs hfs' hconfig hconfig' hpolicy hpolicy'
      hi hj hallocate hfound hfound'
    obtain ⟨hpath, hread⟩ := found_whole hfs hconfig hpolicy hi hallocate hfound
    obtain ⟨hpath', hread'⟩ := found_whole hfs' hconfig' hpolicy' hj hallocate hfound'
    constructor
    · -- The same text is read as the same path, which ends with the name.
      rintro rfl
      have hsame : (i.baseUnder root).child i.name = (j.baseUnder root).child j.name :=
        hread.symm.trans hread'
      have hnames : (i.baseUnder root).names ++ [i.name] = (j.baseUnder root).names ++ [j.name] :=
        congrArg Path.names hsame
      obtain ⟨hbase, hname⟩ := List.append_inj' hnames rfl
      rw [i.names_baseUnder, j.names_baseUnder, List.append_right_inj] at hbase
      exact ⟨List.singleton_inj.1 hname, hbase⟩
    · rintro ⟨hname, hwords⟩
      rw [hpath, hpath', Identity.baseUnder_eq_iff.2 hwords, hname]

/-- Two spellings of a namespace lead to the same directory, so they have the same words. -/
theorem namespaces_correspond_sampleFiles :
    (resolve sampleFiles ⟨"talker", "/b"⟩ ⟨some "k", none, .whole⟩
        (Allocator.pool "keys").allocate).outcome = .ok (.found "k/b/talker") ∧
      (resolve sampleFiles ⟨"talker", "//b/."⟩ ⟨some "k", none, .whole⟩
        (Allocator.pool "keys").allocate).outcome = .ok (.found "k/b/talker") ∧
      words "/b" = words "//b/." := by
  have hsearches : LookupConfig.Searches ⟨some "k", none, .whole⟩ "k" := ⟨rfl, rfl⟩
  have hdir : sampleFiles.isDirectory (.ofString "k/b") = .ok true := by decide
  have hsub : sampleFiles.subdirectories (.ofString "k/b") = .ok ["talker", "talker_4"] := by decide
  have hexam := (FileSystem.exists_subdirectories_iff hdir).1 ⟨_, hsub⟩
  have hallocate : ∀ path, (Allocator.pool "keys").allocate path = .ok path := fun _ => rfl
  have hfound : ∀ i : Identity, i.name = "talker" → i.fault? = none →
      i.baseUnder "k" = .ofString "k/b" →
      (resolve sampleFiles i ⟨some "k", none, .whole⟩ (Allocator.pool "keys").allocate).outcome
        = .ok (.found "k/b/talker") := by
    intro i hname hi hbase
    have htalker : sampleFiles.IsSubdirectory (.ofString "k/b") i.name :=
      (FileSystem.mem_subdirectories hsub _).1 (by rw [hname]; decide)
    have hcandidate : sampleFiles.Candidate (.ofString "k/b") .whole i.name i.name := ⟨htalker, rfl⟩
    obtain ⟨best, hbest, hdeliver⟩ := searchVerdict_of_candidate hdir hexam hcandidate
    have heq : best = "talker" := Eq.trans hbest.candidate.identifies hname
    rw [resolve_eq_found_iff hsearches hi hallocate, hbase, hdeliver, heq]
    decide
  have hone := hfound ⟨"talker", "/b"⟩ rfl (by decide) (by decide)
  have hother := hfound ⟨"talker", "//b/."⟩ rfl (by decide) (by decide)
  have hiff := (namespaces_correspond "k").found_eq_iff _ _ _ _ _ _ _ _ _ wellNamed_sampleFiles
    wellNamed_sampleFiles hsearches hsearches rfl rfl (by decide) (by decide) hallocate hone hother
  exact ⟨hone, hother, (hiff.1 rfl).2⟩

end Keystore
