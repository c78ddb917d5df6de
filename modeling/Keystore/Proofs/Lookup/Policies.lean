/-
Beginnings of names, compared with whole names.

To accept beginnings of a node's name is to accept the whole name and more besides.  The
directory with the whole name is the longest candidate that there can be, so where it exists
both policies choose it, and a lookup under the one policy is a lookup under the other one
(`searchVerdict_beginning`).  The policies part where no directory has the whole name: this is
where whole names match nothing, and beginnings may still find a shorter one.

Under beginnings, what is chosen for a node is chosen for itself, too.  A longer name has all
the candidates of the shorter one, so lengthening the name of a node replaces its directory
by a longer one at most, and both are beginnings of the longer name.
-/
import Mathlib.Data.List.Basic
import Keystore.Proofs.Lookup.Override
import Keystore.Proofs.Scan.Order

namespace Keystore

/-! ## Names and longer names -/

namespace MatchPolicy

variable {policy : MatchPolicy} {a node : String}

lemma identifies_self (policy : MatchPolicy) (h : node ≠ "") : policy.Identifies node node := by
  cases policy with
  | whole => rfl
  | beginning => exact ⟨h, List.prefix_refl _⟩

lemma Identifies.length_le (h : policy.Identifies a node) : a.length ≤ node.length := by
  cases policy with
  | whole => exact Nat.le_of_eq (congrArg String.length h)
  | beginning =>
    rw [← String.length_toList, ← String.length_toList]
    exact h.2.length_le

/-- A longer name begins with everything that the shorter one begins with. -/
lemma Identifies.append (h : beginning.Identifies a node) (more : String) :
    beginning.Identifies a (node ++ more) := by
  refine ⟨h.1, ?_⟩
  rw [String.toList_append]
  exact h.2.trans (List.prefix_append _ _)

end MatchPolicy

namespace FileSystem

variable {fs : FileSystem} {base : Path} {node name : String} {policy : MatchPolicy}
  {result : Option String}

/-- A directory with the name of the node is the best match under both policies. -/
lemma winner_self (policy : MatchPolicy) (hsub : fs.IsSubdirectory base node) (hne : node ≠ "") :
    fs.Winner base policy node node := by
  have hself := policy.identifies_self hne
  refine ⟨⟨hsub, hself⟩, fun other hother hother' => ?_⟩
  have hle := hother.identifies.length_le
  have hlen : other.length ≠ node.length := fun heq =>
    hother' (hother.identifies.eq_of_length_eq hself heq)
  omega

/-- Whether a scan has a result depends neither on the node nor on the policy. -/
lemma exists_bestMatch_of_bestMatch (h : (fs.bestMatch base node policy).value = .ok result)
    (node' : String) (policy' : MatchPolicy) :
    ∃ result', (fs.bestMatch base node' policy').value = .ok result' := by
  rw [bestMatch_value] at h ⊢
  rcases hfound : fs.subdirectories base with fault | found
  · rw [hfound] at h
    cases h
  · exact ⟨_, rfl⟩

lemma bestMatch_of_winner (h : (fs.bestMatch base node policy).value = .ok result)
    {node' : String} {policy' : MatchPolicy} (hname : fs.Winner base policy' node' name) :
    (fs.bestMatch base node' policy').value = .ok (some name) := by
  obtain ⟨result', hresult'⟩ := exists_bestMatch_of_bestMatch h node' policy'
  rw [hresult', (bestMatch_eq_some_iff hresult').2 hname]

section Beginning

variable (h : (fs.bestMatch base node .beginning).value = .ok (some name))

include h

/-- What is chosen for a node is chosen for a node of its own name. -/
lemma bestMatch_self (policy : MatchPolicy) :
    (fs.bestMatch base name policy).value = .ok (some name) := by
  have hcandidate := ((bestMatch_eq_some_iff h).1 rfl).candidate
  exact bestMatch_of_winner h (winner_self policy hcandidate.subdirectory hcandidate.identifies.1)

/-- A longer name has a match, and it is a longer one at most. -/
lemma bestMatch_append (more : String) :
    ∃ longer, (fs.bestMatch base (node ++ more) .beginning).value = .ok (some longer) ∧
      name.toList <+: longer.toList := by
  have hcandidate := ((bestMatch_eq_some_iff h).1 rfl).candidate
  have hmore : fs.Candidate base .beginning (node ++ more) name :=
    ⟨hcandidate.subdirectory, hcandidate.identifies.append more⟩
  obtain ⟨result, hresult⟩ := exists_bestMatch_of_bestMatch h (node ++ more) .beginning
  rcases result with _ | longer
  · exact absurd hmore ((bestMatch_eq_none_iff hresult).1 rfl name)
  · have hwinner := (bestMatch_eq_some_iff hresult).1 rfl
    refine ⟨longer, hresult, ?_⟩
    -- Both names are beginnings of the longer name, and the winner is not the shorter one.
    by_cases heq : name = longer
    · obtain rfl := heq
      exact List.prefix_refl _
    · have hlt := hwinner.longest name hmore heq
      exact (hwinner.candidate.identifies.shortens hmore.identifies hlt).2

end Beginning
end FileSystem

/-! ## Lookups under both policies -/

section Search

variable {fs : FileSystem} {i : Identity} {base : Path}

/-- A search that matches the whole name, or fails for another reason than that nothing matches it,
goes the same way with beginnings. -/
lemma searchVerdict_beginning (hname : i.name ≠ "")
    (h : ∀ diagnostic, searchVerdict fs i base .whole ≠ .fail .noMatch diagnostic) :
    searchVerdict fs i base .beginning = searchVerdict fs i base .whole := by
  rw [searchVerdict] at h
  rw [searchVerdict, searchVerdict]
  rcases hbase : fs.isDirectory base with fault | _ | _
  · rfl
  · rfl
  · rcases hwhole : (fs.bestMatch base i.name .whole).value with fault | _ | best
    · -- A scan that fails has failed before any name was compared.
      have hfault : (fs.bestMatch base i.name .beginning).value = .error fault := by
        rw [FileSystem.bestMatch_value] at hwhole ⊢
        rcases hfound : fs.subdirectories base with fault' | found <;> rw [hfound] at hwhole <;>
          cases hwhole
        rfl
      simp only [hfault]
    · simp only [hbase, hwhole] at h
      exact absurd rfl (h _)
    · have hcandidate := ((FileSystem.bestMatch_eq_some_iff hwhole).1 rfl).candidate
      have heq : best = i.name := hcandidate.identifies
      have hself := FileSystem.winner_self .beginning (heq ▸ hcandidate.subdirectory) hname
      simp only [FileSystem.bestMatch_of_winner hwhole hself, heq]

/-- Where nothing has the whole name, beginnings find a shorter name or nothing. -/
lemma searchVerdict_beginning_of_noMatch {diagnostic : String}
    (h : searchVerdict fs i base .whole = .fail .noMatch diagnostic) :
    searchVerdict fs i base .beginning
        = .fail .noMatch (Diagnostic.noMatch base i.name .beginning) ∨
      ∃ name, fs.Winner base .beginning i.name name ∧ Shortens i.name name ∧
        searchVerdict fs i base .beginning = .deliver (base.append [name]).render := by
  rw [searchVerdict] at h
  rw [searchVerdict]
  rcases hbase : fs.isDirectory base with fault | _ | _ <;> simp only [hbase] at h
  · cases h
  · cases h
  · rcases hwhole : (fs.bestMatch base i.name .whole).value with fault | _ | best <;>
      simp only [hwhole] at h <;> cases h
    obtain ⟨result, hresult⟩ :=
      FileSystem.exists_bestMatch_of_bestMatch hwhole i.name .beginning
    rcases result with _ | name
    · simp only [hresult, true_or]
    · have hwinner := (FileSystem.bestMatch_eq_some_iff hresult).1 rfl
      have hid := hwinner.candidate.identifies
      have hself : MatchPolicy.beginning.Identifies i.name i.name :=
        MatchPolicy.beginning.identifies_self fun hempty => by
          have hle := hid.length_le
          rw [hempty] at hle
          exact hid.1 (String.length_eq_zero_iff.1 (Nat.le_zero.1 hle))
      have hne : name ≠ i.name := fun heq =>
        (FileSystem.bestMatch_eq_none_iff hwhole).1 rfl name ⟨hwinner.candidate.subdirectory, heq⟩
      have hlen : name.length ≠ i.name.length := fun heq =>
        hne (hid.eq_of_length_eq hself heq)
      refine Or.inr ⟨name, hwinner, hself.shortens hid ?_, by simp only [hresult]⟩
      exact Nat.lt_of_le_of_ne hid.length_le hlen

end Search

/-- The configuration with the given policy in place of its own. -/
abbrev LookupConfig.under (config : LookupConfig) (policy : MatchPolicy) : LookupConfig :=
  { config with policy }

section Lookup

variable {fs : FileSystem} {i : Identity} {config : LookupConfig}
  {allocate : String → Except AllocationFault String}

/-- No allocator is to blame for a name that nothing matches. -/
lemma Verdict.outcome_eq_noMatch_iff {v : Verdict} {diagnostic : String} :
    v.outcome allocate = .ok (.notFound .noMatch diagnostic) ↔ v = .fail .noMatch diagnostic := by
  cases v with
  | raise fault => simp [outcome]
  | fail cause diagnostic' => simp [outcome]
  | deliver path =>
    rw [outcome]
    rcases allocate path with (detail | detail | detail) | owned <;> simp

/-- Lookups with the same verdict cannot be told apart. -/
lemma resolve_sameAnswer {i' : Identity} {config' : LookupConfig}
    (h : verdict fs i config = verdict fs i' config') :
    (resolve fs i config allocate).SameAnswer (resolve fs i' config' allocate) := by
  have houtcome : (resolve fs i config allocate).outcome = (resolve fs i' config' allocate).outcome := by
    rw [resolve_outcome, resolve_outcome, h]
  refine ⟨houtcome, ?_, ?_⟩
  · rw [resolve_reported, resolve_reported, houtcome]
  · rw [resolve_requests, resolve_requests, h]

lemma name_ne_empty_of_valid (h : i.fault? = none) : i.name ≠ "" := by
  intro hname
  rw [Identity.fault?, if_pos hname] at h
  cases h

/-- The policy matters to a lookup only where it searches. -/
lemma verdict_under (fs : FileSystem) (i : Identity) (config : LookupConfig) :
    (∃ root, i.fault? = none ∧ ∀ policy,
      verdict fs i (config.under policy) = searchVerdict fs i (i.baseUnder root) policy) ∨
    ∀ policy, verdict fs i (config.under policy) = verdict fs i config ∧
      ∀ diagnostic, verdict fs i config ≠ .fail .noMatch diagnostic := by
  rcases hoverride : nonempty? config.override with _ | override
  · rcases hi : i.fault? with _ | fault
    · rcases hroot : nonempty? config.rootDirectory with _ | root
      · simp [verdict, hoverride, hi, hroot]
      · exact Or.inl ⟨root, rfl, fun policy => verdict_of_searches ⟨hoverride, hroot⟩ hi⟩
    · simp [verdict, hoverride, hi]
  · refine Or.inr fun policy => ⟨?_, fun diagnostic => ?_⟩
    · have hunder : nonempty? (config.under policy).override = some override := hoverride
      rw [verdict_of_override hunder, verdict_of_override hoverride]
    · rw [verdict_of_override hoverride]
      rcases hdir : fs.isDirectory (.ofString override) with fault | _ | _
      · simp [overrideVerdict_eq_raise hdir]
      · simp [overrideVerdict_eq_fail hdir]
      · simp [overrideVerdict_eq_deliver hdir]

lemma verdict_beginning
    (h : ∀ diagnostic, verdict fs i (config.under .whole) ≠ .fail .noMatch diagnostic) :
    verdict fs i (config.under .beginning) = verdict fs i (config.under .whole) := by
  rcases verdict_under fs i config with ⟨root, hi, hsearch⟩ | hsame
  · rw [hsearch, hsearch]
    refine searchVerdict_beginning (name_ne_empty_of_valid hi) fun diagnostic heq => ?_
    exact h diagnostic ((hsearch .whole).trans heq)
  · rw [(hsame .beginning).1, (hsame .whole).1]

lemma verdict_beginning_of_noMatch {diagnostic : String}
    (h : verdict fs i (config.under .whole) = .fail .noMatch diagnostic) :
    (∃ diagnostic', verdict fs i (config.under .beginning) = .fail .noMatch diagnostic') ∨
      ∃ root name, fs.Winner (i.baseUnder root) .beginning i.name name ∧ Shortens i.name name ∧
        verdict fs i (config.under .beginning)
          = .deliver ((i.baseUnder root).append [name]).render := by
  rcases verdict_under fs i config with ⟨root, -, hsearch⟩ | hsame
  · rw [hsearch] at h ⊢
    rcases searchVerdict_beginning_of_noMatch h with hnone | ⟨name, hname⟩
    · exact Or.inl ⟨_, hnone⟩
    · exact Or.inr ⟨root, name, hname⟩
  · rw [(hsame .whole).1] at h
    exact absurd h ((hsame .whole).2 diagnostic)

end Lookup

/-- What beginnings of names add to whole names. -/
structure MatchPolicy.Extension (fs : FileSystem) : Prop where
  /-- A lookup answers the same, unless nothing matches the whole name. -/
  same : ∀ (i : Identity) (config : LookupConfig) allocate,
    (∀ diagnostic, (resolve fs i (config.under .whole) allocate).outcome
      ≠ .ok (.notFound .noMatch diagnostic)) →
    (resolve fs i (config.under .beginning) allocate).SameAnswer
      (resolve fs i (config.under .whole) allocate)
  /-- Then nothing matches a beginning either, or it is a proper one. -/
  more : ∀ (i : Identity) (config : LookupConfig) allocate diagnostic,
    (resolve fs i (config.under .whole) allocate).outcome = .ok (.notFound .noMatch diagnostic) →
    (∃ diagnostic', (resolve fs i (config.under .beginning) allocate).outcome
      = .ok (.notFound .noMatch diagnostic')) ∨
    ∃ root name, fs.Winner (i.baseUnder root) .beginning i.name name ∧ Shortens i.name name ∧
      (resolve fs i (config.under .beginning) allocate).requests
        = [((i.baseUnder root).append [name]).render]
  /-- What is chosen for a node is chosen for its own name, under both policies. -/
  self : ∀ base node name, (fs.bestMatch base node .beginning).value = .ok (some name) →
    ∀ policy, (fs.bestMatch base name policy).value = .ok (some name)
  /-- A longer name of a node has a match as well, which begins with the old one. -/
  longer : ∀ base node name, (fs.bestMatch base node .beginning).value = .ok (some name) →
    ∀ more, ∃ longer, (fs.bestMatch base (node ++ more) .beginning).value = .ok (some longer) ∧
      name.toList <+: longer.toList

/-- **Beginnings extend whole names**, in lookups and in scans. -/
theorem beginning_extends_whole (fs : FileSystem) : MatchPolicy.Extension fs := by
  refine ⟨fun i config allocate h => ?_, fun i config allocate diagnostic h => ?_,
    fun base node name h policy => FileSystem.bestMatch_self h policy,
    fun base node name h more => FileSystem.bestMatch_append h more⟩
  · refine resolve_sameAnswer (verdict_beginning fun diagnostic hverdict => h diagnostic ?_)
    rw [resolve_outcome]
    exact Verdict.outcome_eq_noMatch_iff.2 hverdict
  · rw [resolve_outcome, Verdict.outcome_eq_noMatch_iff] at h
    rw [resolve_outcome, resolve_requests]
    rcases verdict_beginning_of_noMatch h with ⟨diagnostic', hnone⟩ | ⟨root, name, hwinner, hshort,
      hdeliver⟩
    · rw [hnone]
      exact Or.inl ⟨diagnostic', rfl⟩
    · rw [hdeliver]
      exact Or.inr ⟨root, name, hwinner, hshort, rfl⟩

/-- With the directory `talker` both policies find it, and for a node whose name goes on behind
`talker_4` the match stays what it is or gets longer. -/
theorem beginning_extends_whole_talker :
    (resolve sampleFiles ⟨"talker", "/b"⟩ ⟨some "k", none, .beginning⟩
        (Allocator.pool "keys").allocate).outcome = .ok (.found "k/b/talker") ∧
      (sampleFiles.bestMatch (.ofString "k/b") "talker_4" .whole).value = .ok (some "talker_4") ∧
      ∀ more, ∃ longer,
        (sampleFiles.bestMatch (.ofString "k/b") ("talker_42" ++ more) .beginning).value
          = .ok (some longer) ∧ "talker_4".toList <+: longer.toList := by
  have hextension := beginning_extends_whole sampleFiles
  have hsub : sampleFiles.subdirectories (.ofString "k/b") = .ok ["talker", "talker_4"] := by decide
  have hbest : (sampleFiles.bestMatch (.ofString "k/b") "talker_42" .beginning).value
      = .ok (some "talker_4") := by
    have hmatches : sampleFiles.rankedMatches (.ofString "k/b") "talker_42" .beginning
        = .ok ["talker_4", "talker"] :=
      FileSystem.rankedMatches_of_perm hsub (by decide) (by decide)
    rw [FileSystem.bestMatch_of_ranked hmatches]
    rfl
  have hwhole : (resolve sampleFiles ⟨"talker", "/b"⟩ ⟨some "k", none, .whole⟩
      (Allocator.pool "keys").allocate).outcome = .ok (.found "k/b/talker") := by
    have hscan : (sampleFiles.bestMatch (.ofString "k/b") "talker" .whole).value
        = .ok (some "talker") := by
      have hmatches : sampleFiles.rankedMatches (.ofString "k/b") "talker" .whole
          = .ok ["talker"] :=
        FileSystem.rankedMatches_of_perm hsub (by decide) (by decide)
      rw [FileSystem.bestMatch_of_ranked hmatches]
      rfl
    have hbase : (Identity.mk "talker" "/b").baseUnder "k" = .ofString "k/b" := by decide
    have hdir : sampleFiles.isDirectory (.ofString "k/b") = .ok true := by decide
    have hverdict : verdict sampleFiles ⟨"talker", "/b"⟩ ⟨some "k", none, .whole⟩
        = .deliver "k/b/talker" := by
      have hsearches : LookupConfig.Searches ⟨some "k", none, .whole⟩ "k" := ⟨rfl, rfl⟩
      rw [verdict_of_searches hsearches (by decide), hbase]
      simp only [searchVerdict, hdir, hscan]
      decide
    rw [resolve_outcome, hverdict]
    rfl
  have hsame := hextension.same ⟨"talker", "/b"⟩ ⟨some "k", none, .whole⟩
    (Allocator.pool "keys").allocate fun diagnostic => by
      rw [hwhole]
      simp
  exact ⟨hsame.outcome.trans hwhole, hextension.self _ _ _ hbest .whole,
    hextension.longer _ _ _ hbest⟩

end Keystore
