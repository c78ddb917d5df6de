/-
The order in which directories list their names.

Nothing is promised about the order in which a directory lists what is in it, so no answer may
depend on it.  Two file systems that differ in nothing else are *relisted* versions of each
other, and every order that a directory could use is that of some version
(`Relisted.exists_listing`).

A scan goes through this order once, and may meet a name there that cannot be examined.
Whether it meets one does not depend on the order, and if it meets none then the directories
that it has found are the same ones, in another order at most.  Ranking them makes one list
out of all these, because of two different names one is always the better match
(`rankMatches_perm`).

The names that identify the same node are beginnings of one another.  So the ranked matches
get shorter and shorter, each one is a beginning of the one before it, and ranking them by
their lengths alone would do (`bestMatch_orderFree`).
-/
import Mathlib.Data.List.Basic
import Keystore.Proofs.FileSystem.Trail
import Keystore.Proofs.Lookup.Search

namespace Keystore

/-! ## Ranked matches -/

/-- The second name is shorter than the first one, and a beginning of it. -/
def Shortens (a b : String) : Prop := b.length < a.length ∧ b.toList <+: a.toList

lemma isBetterMatch_antisymm {a b : String} (hab : isBetterMatch a b = true)
    (hba : isBetterMatch b a = true) : a = b := by
  rw [isBetterMatch_iff] at hab hba
  rcases hab with hab | ⟨hlen, hle⟩ <;> rcases hba with hba | ⟨hlen', hle'⟩
  · omega
  · omega
  · omega
  · exact String.le_antisymm hle hle'

/-- **Ranking forgets the order.** -/
lemma rankMatches_perm {names names' : List String} (h : names'.Perm names) :
    rankMatches names' = rankMatches names := by
  have hperm : (rankMatches names').Perm (rankMatches names) :=
    (List.mergeSort_perm names' _).trans (h.trans (List.mergeSort_perm names _).symm)
  exact hperm.eq_of_pairwise (fun a b _ _ => isBetterMatch_antisymm)
    (pairwise_rankMatches names') (pairwise_rankMatches names)

namespace MatchPolicy

variable {p : MatchPolicy} {node a b : String}

/-- Of two names that identify the same node, one is a beginning of the other. -/
lemma Identifies.shortens (ha : p.Identifies a node) (hb : p.Identifies b node)
    (hlen : b.length < a.length) : Shortens a b := by
  refine ⟨hlen, ?_⟩
  cases p with
  | whole =>
    have heq : a = b := Eq.trans ha (Eq.symm hb)
    rw [heq] at hlen
    exact absurd hlen (Nat.lt_irrefl _)
  | beginning =>
    rw [← String.length_toList, ← String.length_toList] at hlen
    exact List.prefix_of_prefix_length_le hb.2 ha.2 (Nat.le_of_lt hlen)

variable {names : List String} (hid : ∀ name ∈ names, p.Identifies name node)

include hid

/-- Matches of one node get shorter and shorter in their ranking. -/
lemma pairwise_shortens (hnodup : names.Nodup) : (rankMatches names).Pairwise Shortens := by
  have hnodup' : (rankMatches names).Nodup :=
    (List.mergeSort_perm names _).nodup_iff.2 hnodup
  have hpairwise := (pairwise_rankMatches names).and hnodup'
  refine hpairwise.imp_of_mem fun {a b} ha hb hab => ?_
  have hida := hid a (mem_rankMatches.1 ha)
  have hidb := hid b (mem_rankMatches.1 hb)
  -- Two matches of the same length are one and the same, so the texts have nothing to decide.
  have hlen : a.length ≠ b.length := fun heq => hab.2 (hida.eq_of_length_eq hidb heq)
  rcases isBetterMatch_iff.1 hab.1 with hlt | ⟨heq, -⟩
  · exact hida.shortens hidb hlt
  · exact absurd heq hlen

/-- Ranking matches of one node by their lengths alone gives the same list. -/
lemma rankMatches_eq_byLength :
    rankMatches names = names.mergeSort fun a b => decide (b.length ≤ a.length) := by
  have hsorted : (names.mergeSort fun a b => decide (b.length ≤ a.length)).Pairwise
      fun a b => decide (b.length ≤ a.length) = true := by
    refine List.pairwise_mergeSort (fun a b c hab hbc => ?_) (fun a b => ?_) names
    · rw [decide_eq_true_eq] at *
      omega
    · rw [Bool.or_eq_true, decide_eq_true_eq, decide_eq_true_eq]
      omega
  have hranked : (rankMatches names).Pairwise fun a b => decide (b.length ≤ a.length) = true := by
    refine (pairwise_rankMatches names).imp fun {a b} hab => ?_
    rw [decide_eq_true_eq]
    rcases isBetterMatch_iff.1 hab with hlt | ⟨heq, -⟩ <;> omega
  have hperm : (rankMatches names).Perm (names.mergeSort fun a b => decide (b.length ≤ a.length)) :=
    (List.mergeSort_perm names _).trans (List.mergeSort_perm names _).symm
  refine hperm.eq_of_pairwise (fun a b ha hb hab hba => ?_) hranked hsorted
  rw [decide_eq_true_eq] at hab hba
  exact (hid a (mem_rankMatches.1 ha)).eq_of_length_eq (hid b (List.mem_mergeSort.1 hb))
    (Nat.le_antisymm hba hab)

end MatchPolicy

namespace FileSystem

variable {fs fs' : FileSystem} {base : Path} {node : String} {policy : MatchPolicy}

/-! ## Other orders -/

/-- The same things at the same places, listed in another order perhaps. -/
structure Relisted (fs fs' : FileSystem) : Prop where
  start : fs'.workingDirectory = fs.workingDirectory
  entry : ∀ p, fs'.entry? p = fs.entry? p
  children : ∀ dir, (fs'.children dir).Perm (fs.children dir)

lemma Relisted.symm (h : Relisted fs fs') : Relisted fs' fs :=
  ⟨h.start.symm, fun p => (h.entry p).symm, fun dir => (h.children dir).symm⟩

lemma Relisted.isDirectory (h : Relisted fs fs') (path : Path) :
    fs'.isDirectory path = fs.isDirectory path :=
  isDirectory_congr h.start fun p _ => h.entry p

/-- A directory that can be listed can be listed in both versions. -/
lemma Relisted.listing (h : Relisted fs fs') (path : Path) :
    (∃ fault, fs.listing path = .error fault ∧ fs'.listing path = .error fault) ∨
      ∃ names names', fs.listing path = .ok names ∧ fs'.listing path = .ok names' ∧
        names'.Perm names := by
  have hlocate : fs'.locate path = fs.locate path := locate_congr h.start fun p _ => h.entry p
  rw [FileSystem.listing, FileSystem.listing, hlocate]
  rcases fs.locate path with fault | place
  · exact Or.inl ⟨_, rfl, rfl⟩
  · simp only [h.entry place]
    rcases fs.entry? place with _ | _ | content | target
    · exact Or.inl ⟨_, rfl, rfl⟩
    · exact Or.inr ⟨_, _, rfl, rfl, h.children place⟩
    · exact Or.inl ⟨_, rfl, rfl⟩
    · exact Or.inl ⟨_, rfl, rfl⟩

/-- The file system whose directory `dir` lists the given names, in this order. -/
def relist (fs : FileSystem) (dir : Place) (names : List String) : FileSystem where
  entries :=
    names.map (fun name => (dir ++ [name], (fs.entries.lookup (dir ++ [name])).getD .directory)) ++
      fs.entries.filter fun e => (nameIn? dir e.1).isNone
  workingDirectory := fs.workingDirectory

section Relist

variable {dir : Place} {names : List String}

lemma lookup_map_names (dir p : Place) (names : List String) (entryOf : Place → Entry) :
    (names.map fun name => (dir ++ [name], entryOf (dir ++ [name]))).lookup p
      = if ∃ name ∈ names, p = dir ++ [name] then some (entryOf p) else none := by
  induction names with
  | nil => simp
  | cons first rest ih =>
    rw [List.map_cons, List.lookup_cons, ih]
    by_cases hp : p = dir ++ [first]
    · simp [hp]
    · rw [beq_false_of_ne hp]
      simp [hp]

lemma nameIn?_append_of_ne {dir' : Place} (h : dir' ≠ dir) (name : String) :
    nameIn? dir' (dir ++ [name]) = none := by
  rcases hname : nameIn? dir' (dir ++ [name]) with _ | other
  · rfl
  · have heq := List.append_inj_left' (eq_append_of_nameIn? hname) rfl
    exact absurd heq.symm h

lemma lookup_eq_none_of_notMem {name : String} (h : name ∉ fs.children dir) :
    fs.entries.lookup (dir ++ [name]) = none := by
  rw [List.lookup_eq_none_iff]
  intro e he
  rw [bne_iff_ne]
  intro heq
  refine h (List.mem_filterMap.2 ⟨e, he, ?_⟩)
  rw [← heq, nameIn?_append]

lemma exists_lookup_of_mem {name : String} (h : name ∈ fs.children dir) :
    ∃ entry, fs.entries.lookup (dir ++ [name]) = some entry := by
  obtain ⟨e, he, hname⟩ := List.mem_filterMap.1 h
  rcases hlookup : fs.entries.lookup (dir ++ [name]) with _ | entry
  · have hne := List.lookup_eq_none_iff.1 hlookup e he
    rw [eq_append_of_nameIn? hname, bne_self_eq_false] at hne
    cases hne
  · exact ⟨entry, rfl⟩

lemma children_relist (fs : FileSystem) (dir : Place) (names : List String) :
    (fs.relist dir names).children dir = names := by
  rw [FileSystem.children, relist, List.filterMap_append, List.filterMap_map,
    List.filterMap_filter]
  have hfirst : names.filterMap
      ((fun e : Place × Entry => nameIn? dir e.1) ∘ fun name =>
        (dir ++ [name], (fs.entries.lookup (dir ++ [name])).getD .directory)) = names := by
    simp [nameIn?_append]
  have hrest : fs.entries.filterMap
      (fun e => if (nameIn? dir e.1).isNone = true then nameIn? dir e.1 else none) = [] := by
    rw [List.filterMap_eq_nil_iff]
    intro e _
    rcases nameIn? dir e.1 with _ | name <;> rfl
  rw [hfirst, hrest, List.append_nil]

lemma children_relist_of_ne {dir' : Place} (h : dir' ≠ dir) :
    (fs.relist dir names).children dir' = fs.children dir' := by
  rw [FileSystem.children, relist, List.filterMap_append, List.filterMap_map,
    List.filterMap_filter]
  have hfirst : names.filterMap
      ((fun e : Place × Entry => nameIn? dir' e.1) ∘ fun name =>
        (dir ++ [name], (fs.entries.lookup (dir ++ [name])).getD .directory)) = [] := by
    simp [nameIn?_append_of_ne h]
  rw [hfirst, List.nil_append, FileSystem.children]
  refine List.filterMap_congr fun e _ => ?_
  -- What lies in the one directory does not lie in the other.
  rcases hname : nameIn? dir e.1 with _ | name
  · rfl
  · rw [eq_append_of_nameIn? hname, nameIn?_append_of_ne h]
    rfl

lemma relisted_relist (h : names.Perm (fs.children dir)) : Relisted fs (fs.relist dir names) := by
  refine ⟨rfl, fun p => ?_, fun dir' => ?_⟩
  · rw [ entry?, entry?]
    change (if p.isPrefixOf fs.workingDirectory = true then _ else _) = _
    congr 1
    rw [relist, List.lookup_append,
      lookup_map_names dir p names fun q => (fs.entries.lookup q).getD .directory,
      lookup_filter_key (fun q => (nameIn? dir q).isNone) p fs.entries]
    rcases hname : nameIn? dir p with _ | name
    · -- Places elsewhere have kept their entries.
      have hno : ¬ ∃ name ∈ names, p = dir ++ [name] := by
        rintro ⟨name, -, rfl⟩
        rw [nameIn?_append] at hname
        cases hname
      rw [if_neg hno]
      rfl
    · have hp := eq_append_of_nameIn? hname
      by_cases hmem : name ∈ names
      · obtain ⟨entry, hentry⟩ := exists_lookup_of_mem (h.mem_iff.1 hmem)
        rw [if_pos ⟨name, hmem, hp⟩, hp, hentry]
        rfl
      · have hno : ¬ ∃ name ∈ names, p = dir ++ [name] := by
          rintro ⟨other, hother, heq⟩
          rw [heq, nameIn?_append, Option.some_inj] at hname
          exact hmem (hname ▸ hother)
        rw [if_neg hno, hp, lookup_eq_none_of_notMem fun hin => hmem (h.mem_iff.2 hin)]
        rfl
  · by_cases heq : dir' = dir
    · rw [heq, children_relist]
      exact h
    · rw [children_relist_of_ne heq]

end Relist

/-- **Every order is the order of some version.** -/
lemma Relisted.exists_listing {names names' : List String} (hlisting : fs.listing base = .ok names)
    (h : names'.Perm names) : ∃ fs', Relisted fs fs' ∧ fs'.listing base = .ok names' := by
  rw [FileSystem.listing] at hlisting
  rcases hplace : fs.locate base with fault | place <;> rw [hplace] at hlisting
  · cases hlisting
  · rcases hentry : fs.entry? place with _ | _ | content | target <;>
      simp only [hentry] at hlisting <;> cases hlisting
    have hrelisted := relisted_relist h
    have hlocate : (fs.relist place names').locate base = .ok place := by
      rw [locate_congr hrelisted.start fun p _ => hrelisted.entry p, hplace]
    refine ⟨_, hrelisted, ?_⟩
    rw [listing_of_locate hlocate (by rw [hrelisted.entry, hentry]), children_relist]

/-! ## Scans in other orders -/

/-- What a list of names has an answer for, it has the directories among them for. -/
lemma directoriesAmong_eq_filter {names found : List String}
    (h : fs.directoriesAmong base names = .ok found) :
    found = names.filter fun name => fs.isDirectory (base.child name) = .ok true := by
  induction names generalizing found with
  | nil =>
    cases h
    rfl
  | cons first rest ih =>
    rw [directoriesAmong] at h
    rcases hfirst : fs.isDirectory (base.child first) with fault | answer <;> rw [hfirst] at h
    · cases h
    · rcases hrest : fs.directoriesAmong base rest with fault | found' <;> rw [hrest] at h <;>
        cases h
      cases answer <;> simp [hfirst, ← ih hrest]

/-- What one version can examine, the other one can examine as well. -/
lemma Relisted.exists_directoriesAmong (h : Relisted fs fs') {names names' found : List String}
    (hperm : names'.Perm names) (hfound : fs.directoriesAmong base names = .ok found) :
    ∃ found', fs'.directoriesAmong base names' = .ok found' := by
  refine FileSystem.exists_directoriesAmong fun name hname => ?_
  rw [h.isDirectory]
  exact exists_isDirectory_of_directoriesAmong hfound name (hperm.mem_iff.1 hname)

/-- Either no version has a list of subdirectories, or both have the same ones. -/
lemma Relisted.subdirectories (h : Relisted fs fs') (base : Path) :
    ((∃ fault, fs.subdirectories base = .error fault) ∧
      ∃ fault, fs'.subdirectories base = .error fault) ∨
    ∃ found found', fs.subdirectories base = .ok found ∧ fs'.subdirectories base = .ok found' ∧
      found'.Perm found := by
  rw [FileSystem.subdirectories, FileSystem.subdirectories]
  rcases h.listing base with ⟨fault, hfs, hfs'⟩ | ⟨names, names', hfs, hfs', hperm⟩
  · rw [hfs, hfs']
    exact Or.inl ⟨⟨_, rfl⟩, ⟨_, rfl⟩⟩
  · rw [hfs, hfs']
    dsimp only
    rcases hfound : fs.directoriesAmong base names with fault | found <;>
      rcases hfound' : fs'.directoriesAmong base names' with fault' | found'
    · exact Or.inl ⟨⟨_, rfl⟩, ⟨_, rfl⟩⟩
    · obtain ⟨found, hok⟩ := h.symm.exists_directoriesAmong hperm.symm hfound'
      rw [hfound] at hok
      cases hok
    · obtain ⟨found', hok⟩ := h.exists_directoriesAmong hperm hfound
      rw [hfound'] at hok
      cases hok
    · refine Or.inr ⟨found, found', rfl, rfl, ?_⟩
      rw [directoriesAmong_eq_filter hfound, directoriesAmong_eq_filter hfound']
      simp only [h.isDirectory]
      exact hperm.filter _

/-- The matches of a scan, from the best to the worst. -/
def rankedMatches (fs : FileSystem) (base : Path) (node : String) (policy : MatchPolicy) :
    Except PathFault (List String) :=
  (fs.subdirectories base).map fun found => rankMatches (found.filter (policy.accepts · node))

/-- A scan gives the first one of its matches, and notes them if there are several. -/
lemma bestMatch_eq (fs : FileSystem) (base : Path) (node : String) (policy : MatchPolicy) :
    fs.bestMatch base node policy =
      match fs.rankedMatches base node policy with
      | .error fault => .silent (.error fault)
      | .ok ranked =>
        ⟨if 1 < ranked.length then [.severalDirectories base node ranked] else [],
          .ok ranked.head?⟩ := by
  rw [bestMatch, rankedMatches]
  rcases fs.subdirectories base with fault | found
  · rfl
  · rcases hranked : rankMatches (found.filter (policy.accepts · node)) with
      _ | ⟨best, _ | ⟨next, rest⟩⟩ <;> simp [Except.map, hranked, Logged.silent]

/-- Matches that stand in their ranking are the ranked ones, wherever they are listed. -/
lemma rankedMatches_of_perm {found ranked : List String} (hfound : fs.subdirectories base = .ok found)
    (hperm : (found.filter (policy.accepts · node)).Perm ranked)
    (hranked : ranked.Pairwise (isBetterMatch · ·)) :
    fs.rankedMatches base node policy = .ok ranked := by
  have hsorted : rankMatches ranked = ranked := List.mergeSort_of_pairwise hranked
  rw [rankedMatches, hfound, Except.map, rankMatches_perm hperm, hsorted]

lemma bestMatch_of_ranked {ranked : List String}
    (h : fs.rankedMatches base node policy = .ok ranked) :
    fs.bestMatch base node policy =
      ⟨if 1 < ranked.length then [.severalDirectories base node ranked] else [],
        .ok ranked.head?⟩ := by
  rw [bestMatch_eq, h]

/-- Either both scans fail, or they are the same, with what they note. -/
lemma Relisted.bestMatch (h : Relisted fs fs') (base : Path) (node : String)
    (policy : MatchPolicy) :
    ((∃ fault, (fs.bestMatch base node policy).value = .error fault) ∧
      ∃ fault, (fs'.bestMatch base node policy).value = .error fault) ∨
    ((∃ result, (fs.bestMatch base node policy).value = .ok result) ∧
      fs'.bestMatch base node policy = fs.bestMatch base node policy) := by
  rw [bestMatch_eq, bestMatch_eq, rankedMatches, rankedMatches]
  rcases h.subdirectories base with ⟨⟨fault, hfs⟩, ⟨fault', hfs'⟩⟩ | ⟨found, found', hfs, hfs', hperm⟩
  · rw [hfs, hfs']
    exact Or.inl ⟨⟨_, rfl⟩, ⟨_, rfl⟩⟩
  · rw [hfs, hfs']
    simp only [Except.map, rankMatches_perm (hperm.filter _)]
    exact Or.inr ⟨⟨_, rfl⟩, trivial⟩

/-! ## What a scan owes to no order -/

/-- The ranked matches of a scan, given the subdirectories of the base in the order in which they
are listed. -/
structure Ranking (fs : FileSystem) (base : Path) (node : String) (policy : MatchPolicy)
    (found ranked : List String) : Prop where
  mem_iff : ∀ name, name ∈ ranked ↔ fs.Candidate base policy node name
  /-- Each match is shorter than those before it, and a proper beginning of them. -/
  shortens : ranked.Pairwise Shortens
  /-- Only one name can be the whole name of the node. -/
  alone : policy = .whole → ranked.length ≤ 1
  /-- The lengths alone decide, for no two matches are equally long. -/
  byLength : ranked
    = (found.filter (policy.accepts · node)).mergeSort fun a b => decide (b.length ≤ a.length)
  lengths : ∀ a ∈ ranked, ∀ b ∈ ranked, a.length = b.length → a = b
  /-- The scan gives the first one, and notes all of them if there are several. -/
  scan : fs.bestMatch base node policy =
    ⟨if 1 < ranked.length then [.severalDirectories base node ranked] else [], .ok ranked.head?⟩
  first_iff : ∀ name, ranked.head? = some name ↔ fs.Winner base policy node name
  none_iff : ranked.head? = none ↔ ∀ name, ¬ fs.Candidate base policy node name

/-- The scan of a base in all orders in which directories could list their names. -/
structure OrderFree (fs : FileSystem) (base : Path) (node : String) (policy : MatchPolicy) :
    Prop where
  /-- Every order occurs. -/
  orders : ∀ names names', fs.listing base = .ok names → names'.Perm names →
    ∃ fs', Relisted fs fs' ∧ fs'.listing base = .ok names'
  /-- The scan fails in all orders or in none. -/
  fails_iff : ∀ fs', Relisted fs fs' →
    ((∃ fault, (fs'.bestMatch base node policy).value = .error fault) ↔
      ∃ fault, (fs.bestMatch base node policy).value = .error fault)
  /-- If it does not fail, it gives the same match and notes the same events. -/
  same : ∀ fs', Relisted fs fs' → (∃ result, (fs.bestMatch base node policy).value = .ok result) →
    fs'.bestMatch base node policy = fs.bestMatch base node policy
  /-- Then the base has a list of subdirectories, and those of them that match are ranked. -/
  ranked : ∀ result, (fs.bestMatch base node policy).value = .ok result →
    ∃ found ranked, fs.subdirectories base = .ok found ∧ Ranking fs base node policy found ranked

lemma ranking_of_subdirectories {found : List String} (hnodup : found.Nodup)
    (h : fs.subdirectories base = .ok found) (node : String) (policy : MatchPolicy) :
    Ranking fs base node policy found (rankMatches (found.filter (policy.accepts · node))) := by
  have hranked : fs.rankedMatches base node policy
      = .ok (rankMatches (found.filter (policy.accepts · node))) := by
    rw [rankedMatches, h]
    rfl
  have hscan := bestMatch_of_ranked hranked
  have hvalue := congrArg Logged.value hscan
  have hid : ∀ name ∈ found.filter (policy.accepts · node), policy.Identifies name node :=
    fun name hname => MatchPolicy.accepts_eq_true_iff.1 (List.mem_filter.1 hname).2
  have hshortens := MatchPolicy.pairwise_shortens hid (hnodup.filter _)
  refine ⟨fun name => ?_, hshortens, ?_, MatchPolicy.rankMatches_eq_byLength hid, ?_, hscan,
    fun name => bestMatch_eq_some_iff hvalue, bestMatch_eq_none_iff hvalue⟩
  · rw [mem_rankMatches, List.mem_filter, mem_subdirectories h, MatchPolicy.accepts_eq_true_iff]
    exact ⟨fun ⟨hsub, hname⟩ => ⟨hsub, hname⟩, fun ⟨hsub, hname⟩ => ⟨hsub, hname⟩⟩
  · rintro rfl
    have hwhole : ∀ name ∈ rankMatches (found.filter (MatchPolicy.whole.accepts · node)),
        name = node := fun name hname => hid name (mem_rankMatches.1 hname)
    rcases hcases : rankMatches (found.filter (MatchPolicy.whole.accepts · node)) with
      _ | ⟨a, _ | ⟨b, rest⟩⟩
    · exact Nat.zero_le 1
    · exact Nat.le_refl 1
    · -- A second match would be shorter than the first one, and both are the name of the node.
      rw [hcases] at hshortens hwhole
      have hlt := ((List.pairwise_cons.1 hshortens).1 b List.mem_cons_self).1
      rw [hwhole a List.mem_cons_self, hwhole b (by simp)] at hlt
      exact absurd hlt (Nat.lt_irrefl _)
  · intro a ha b hb hlen
    exact (hid a (mem_rankMatches.1 ha)).eq_of_length_eq (hid b (mem_rankMatches.1 hb)) hlen

/-- **A scan does not depend on the order of names, and its match is unique.** -/
theorem bestMatch_orderFree {fs : FileSystem} {base : Path}
    (hnodup : ∀ names, fs.listing base = .ok names → names.Nodup) (node : String)
    (policy : MatchPolicy) : OrderFree fs base node policy := by
  refine ⟨fun names names' hlisting hperm => Relisted.exists_listing hlisting hperm, ?_, ?_, ?_⟩
  · intro fs' h
    rcases h.bestMatch base node policy with ⟨hfails, hfails'⟩ | ⟨-, heq⟩
    · exact iff_of_true hfails' hfails
    · rw [heq]
  · rintro fs' h ⟨result, hresult⟩
    rcases h.bestMatch base node policy with ⟨⟨fault, hfault⟩, -⟩ | ⟨-, heq⟩
    · rw [hresult] at hfault
      cases hfault
    · exact heq
  · intro result hresult
    rw [bestMatch_value] at hresult
    rcases hfound : fs.subdirectories base with fault | found
    · rw [hfound] at hresult
      cases hresult
    · refine ⟨found, _, rfl, ranking_of_subdirectories ?_ hfound node policy⟩
      -- The subdirectories are some of the names that the base lists.
      rw [FileSystem.subdirectories] at hfound
      rcases hlisting : fs.listing base with fault | names <;> rw [hlisting] at hfound
      · cases hfound
      · rw [directoriesAmong_eq_filter hfound]
        exact (hnodup names hlisting).filter _

/-- Listed from behind, the keystore has the same two matches in the same ranking. -/
theorem bestMatch_orderFree_backwards :
    (∀ names, sampleFiles.listing (.ofString "k/b") = .ok names → names.Nodup) ∧
    ∃ fs', Relisted sampleFiles fs' ∧
      fs'.listing (.ofString "k/b") = .ok ["talk", "talker_42", "talker_4", "talker"] ∧
      fs'.bestMatch (.ofString "k/b") "talker_42" .beginning
        = ⟨[.severalDirectories (.ofString "k/b") "talker_42" ["talker_4", "talker"]],
            .ok (some "talker_4")⟩ := by
  have hlisting : sampleFiles.listing (.ofString "k/b")
      = .ok ["talker", "talker_4", "talker_42", "talk"] := by decide
  have hnodup : ∀ names, sampleFiles.listing (.ofString "k/b") = .ok names → names.Nodup := by
    intro names hnames
    rw [hlisting] at hnames
    cases hnames
    decide
  have hfree := bestMatch_orderFree hnodup "talker_42" .beginning
  obtain ⟨fs', hrelisted, hback⟩ :=
    hfree.orders _ ["talk", "talker_42", "talker_4", "talker"] hlisting (by decide)
  have hscan : sampleFiles.bestMatch (.ofString "k/b") "talker_42" .beginning
      = ⟨[.severalDirectories (.ofString "k/b") "talker_42" ["talker_4", "talker"]],
          .ok (some "talker_4")⟩ := by
    have hfound : sampleFiles.subdirectories (.ofString "k/b") = .ok ["talker", "talker_4"] := by
      decide
    have hmatches : sampleFiles.rankedMatches (.ofString "k/b") "talker_42" .beginning
        = .ok ["talker_4", "talker"] :=
      rankedMatches_of_perm hfound (by decide) (by decide)
    rw [bestMatch_of_ranked hmatches]
    rfl
  refine ⟨hnodup, fs', hrelisted, hback, ?_⟩
  rw [hfree.same fs' hrelisted ⟨_, congrArg Logged.value hscan⟩, hscan]

end FileSystem
end Keystore
