/-
Scanning a directory for a node.

The scan of a base is described without its course.  A *subdirectory* is a name that the
base lists and whose path leads to a directory, a *candidate* is a subdirectory that
identifies the node under the policy, and the *winner* is the candidate that is longer
than all others.  A scan that has a result gives the winner if there are candidates, and
nothing otherwise; it has a result if every name that the base lists can be examined
(`exists_bestMatch`):

* `bestMatch_eq_some_iff`: the scan gives a name exactly if it is the winner;
* `bestMatch_eq_none_iff`: the scan gives nothing exactly if there is no candidate.

What makes a name a subdirectory is read off the entry that the base has under the name
(`isSubdirectory_iff_of_locate`): a directory is one, a file is not, and a link is one
exactly if its way ends at a directory.
-/
import Mathlib.Data.List.Basic
import Keystore.Scan
import Keystore.Proofs.FileSystem.Walk

namespace Keystore

/-! ## Names that identify a node -/

namespace MatchPolicy

/-- A directory name identifies a node by being its name, or by being a beginning of it that
is not empty. -/
def Identifies : MatchPolicy → String → String → Prop
  | whole, candidate, name => candidate = name
  | beginning, candidate, name => candidate ≠ "" ∧ candidate.toList <+: name.toList

lemma accepts_eq_true_iff {p : MatchPolicy} {candidate name : String} :
    p.accepts candidate name = true ↔ p.Identifies candidate name := by
  cases p with
  | whole => simp [accepts, Identifies]
  | beginning => simp [accepts, Identifies, List.isPrefixOf_iff_prefix]

/-- Two names of the same length that identify the same node are the same. -/
lemma Identifies.eq_of_length_eq {p : MatchPolicy} {a b name : String}
    (ha : p.Identifies a name) (hb : p.Identifies b name) (hlen : a.length = b.length) : a = b := by
  cases p with
  | whole => exact Eq.trans ha (Eq.symm hb)
  | beginning =>
    rw [← String.length_toList, ← String.length_toList] at hlen
    have hpre := List.prefix_of_prefix_length_le ha.2 hb.2 (Nat.le_of_eq hlen)
    exact String.toList_inj.1 (hpre.eq_of_length hlen)

end MatchPolicy

/-! ## The order of matches -/

lemma isBetterMatch_iff {a b : String} :
    isBetterMatch a b = true ↔ b.length < a.length ∨ (a.length = b.length ∧ a ≤ b) := by
  rw [isBetterMatch, Bool.or_eq_true, Bool.and_eq_true, decide_eq_true_eq, decide_eq_true_eq,
    Bool.not_eq_true', decide_eq_false_iff_not, String.not_lt]

lemma isBetterMatch_trans (a b c : String) (hab : isBetterMatch a b = true)
    (hbc : isBetterMatch b c = true) : isBetterMatch a c = true := by
  rw [isBetterMatch_iff] at *
  rcases hab with hab | ⟨hab, hab'⟩ <;> rcases hbc with hbc | ⟨hbc, hbc'⟩
  · exact Or.inl (by omega)
  · exact Or.inl (by omega)
  · exact Or.inl (by omega)
  · exact Or.inr ⟨by omega, String.le_trans hab' hbc'⟩

lemma isBetterMatch_total (a b : String) : (isBetterMatch a b || isBetterMatch b a) = true := by
  rw [Bool.or_eq_true, isBetterMatch_iff, isBetterMatch_iff]
  rcases Nat.lt_trichotomy a.length b.length with hlt | heq | hgt
  · exact Or.inr (Or.inl hlt)
  · rcases String.le_total a b with hle | hle
    · exact Or.inl (Or.inr ⟨heq, hle⟩)
    · exact Or.inr (Or.inr ⟨heq.symm, hle⟩)
  · exact Or.inl (Or.inl hgt)

lemma mem_rankMatches {names : List String} {name : String} :
    name ∈ rankMatches names ↔ name ∈ names := List.mem_mergeSort

lemma pairwise_rankMatches (names : List String) :
    (rankMatches names).Pairwise (isBetterMatch · ·) :=
  List.pairwise_mergeSort isBetterMatch_trans isBetterMatch_total names

/-- No match is longer than the first one. -/
lemma length_le_of_head?_rankMatches {names : List String} {best : String}
    (h : (rankMatches names).head? = some best) :
    best ∈ names ∧ ∀ name ∈ names, name.length ≤ best.length := by
  obtain ⟨others, hranked⟩ := List.head?_eq_some_iff.1 h
  have hpairwise := pairwise_rankMatches names
  rw [hranked, List.pairwise_cons] at hpairwise
  refine ⟨mem_rankMatches.1 (by simp [hranked]), fun name hname => ?_⟩
  have hmem := mem_rankMatches.2 hname
  rw [hranked, List.mem_cons] at hmem
  rcases hmem with rfl | hmem
  · exact Nat.le_refl _
  · rcases isBetterMatch_iff.1 (hpairwise.1 name hmem) with hlt | ⟨heq, -⟩ <;> omega

namespace FileSystem

variable {fs : FileSystem} {base : Path}

/-! ## Subdirectories -/

/-- The directory at the path lists the name. -/
def Lists (fs : FileSystem) (path : Path) (name : String) : Prop :=
  ∃ names, fs.listing path = .ok names ∧ name ∈ names

/-- Every name that the directory at the path lists can be examined. -/
def Examinable (fs : FileSystem) (path : Path) : Prop :=
  ∀ name, fs.Lists path name → ∃ answer, fs.isDirectory (path.child name) = .ok answer

/-- The name belongs to a directory directly below the base. -/
structure IsSubdirectory (fs : FileSystem) (base : Path) (name : String) : Prop where
  /-- The base lists the name. -/
  listed : fs.Lists base name
  /-- The path to the entry leads to a directory. -/
  leads : fs.isDirectory (base.child name) = .ok true

/-- The directory below the base identifies the node. -/
structure Candidate (fs : FileSystem) (base : Path) (policy : MatchPolicy) (node name : String) :
    Prop where
  /-- It is a directory below the base. -/
  subdirectory : fs.IsSubdirectory base name
  /-- Its name identifies the node. -/
  identifies : policy.Identifies name node

/-- The candidate that is longer than all others. -/
structure Winner (fs : FileSystem) (base : Path) (policy : MatchPolicy) (node name : String) :
    Prop where
  /-- It is a candidate. -/
  candidate : fs.Candidate base policy node name
  /-- All others are shorter. -/
  longest : ∀ other, fs.Candidate base policy node other → other ≠ name → other.length < name.length

lemma Winner.unique {policy : MatchPolicy} {node a b : String}
    (ha : fs.Winner base policy node a) (hb : fs.Winner base policy node b) : a = b := by
  by_contra hne
  have hab := ha.longest b hb.candidate (fun heq => hne heq.symm)
  have hba := hb.longest a ha.candidate hne
  omega

lemma mem_directoriesAmong {names found : List String}
    (h : fs.directoriesAmong base names = .ok found) (name : String) :
    name ∈ found ↔ name ∈ names ∧ fs.isDirectory (base.child name) = .ok true := by
  induction names generalizing found with
  | nil =>
    cases h
    simp
  | cons first rest ih =>
    rw [directoriesAmong] at h
    split at h
    · cases h
    · next isDir hfirst =>
      split at h
      · cases h
      · next found' hrest =>
        cases h
        cases isDir with
        | false =>
          rw [if_neg Bool.false_ne_true, ih hrest, List.mem_cons]
          constructor
          · rintro ⟨hmem, hdir⟩
            exact ⟨Or.inr hmem, hdir⟩
          · rintro ⟨rfl | hmem, hdir⟩
            · rw [hfirst] at hdir
              cases hdir
            · exact ⟨hmem, hdir⟩
        | true =>
          rw [if_pos rfl, List.mem_cons, List.mem_cons, ih hrest]
          constructor
          · rintro (rfl | ⟨hmem, hdir⟩)
            · exact ⟨Or.inl rfl, hfirst⟩
            · exact ⟨Or.inr hmem, hdir⟩
          · rintro ⟨rfl | hmem, hdir⟩
            · exact Or.inl rfl
            · exact Or.inr ⟨hmem, hdir⟩

/-- If no name is refused an answer, then the whole list has one. -/
lemma exists_directoriesAmong {names : List String}
    (h : ∀ name ∈ names, ∃ answer, fs.isDirectory (base.child name) = .ok answer) :
    ∃ found, fs.directoriesAmong base names = .ok found := by
  induction names with
  | nil => exact ⟨[], rfl⟩
  | cons first rest ih =>
    obtain ⟨answer, hfirst⟩ := h first List.mem_cons_self
    obtain ⟨found, hrest⟩ := ih fun name hname => h name (List.mem_cons_of_mem _ hname)
    exact ⟨_, by rw [directoriesAmong, hfirst, hrest]⟩

/-- A list that has an answer has been examined to its end. -/
lemma exists_isDirectory_of_directoriesAmong {names found : List String}
    (h : fs.directoriesAmong base names = .ok found) :
    ∀ name ∈ names, ∃ answer, fs.isDirectory (base.child name) = .ok answer := by
  induction names generalizing found with
  | nil => exact fun name hname => absurd hname List.not_mem_nil
  | cons first rest ih =>
    rw [directoriesAmong] at h
    split at h
    · cases h
    · next answer hfirst =>
      split at h
      · cases h
      · next hrest =>
        intro name hname
        rcases List.mem_cons.1 hname with rfl | hname
        · exact ⟨answer, hfirst⟩
        · exact ih hrest name hname

lemma mem_subdirectories {found : List String} (h : fs.subdirectories base = .ok found)
    (name : String) : name ∈ found ↔ fs.IsSubdirectory base name := by
  rw [subdirectories] at h
  split at h
  · cases h
  · next names hlisting =>
    rw [mem_directoriesAmong h]
    constructor
    · rintro ⟨hmem, hleads⟩
      exact ⟨⟨_, hlisting, hmem⟩, hleads⟩
    · rintro ⟨⟨names', hnames, hmem⟩, hleads⟩
      rw [hlisting] at hnames
      cases hnames
      exact ⟨hmem, hleads⟩

/-- A base that is a directory has a list of its subdirectories exactly if all of its names can
be examined. -/
lemma exists_subdirectories_iff (hbase : fs.isDirectory base = .ok true) :
    (∃ found, fs.subdirectories base = .ok found) ↔ fs.Examinable base := by
  obtain ⟨place, hplace, hdir⟩ := isDirectory_eq_true_iff.1 hbase
  have hlisting := listing_of_locate hplace hdir
  rw [subdirectories, hlisting]
  constructor
  · rintro ⟨found, hfound⟩ name ⟨names, hnames, hmem⟩
    rw [hlisting] at hnames
    cases hnames
    exact exists_isDirectory_of_directoriesAmong hfound name hmem
  · intro hexam
    exact exists_directoriesAmong fun name hname => hexam name ⟨_, hlisting, hname⟩

/-- **What is a subdirectory.**  Of the names that the base lists, those of directories are,
those of files are not, and those of links are exactly if the link leads to a directory. -/
lemma isSubdirectory_iff_of_locate (hfs : fs.WellNamed) (hexam : fs.Examinable base) {place : Place}
    (hplace : fs.locate base = .ok place) (hdir : fs.entry? place = some .directory)
    (name : String) :
    fs.IsSubdirectory base name ↔
      name ∈ fs.children place ∧
        (fs.entry? (place ++ [name]) = some .directory ∨
          ∃ target there, fs.entry? (place ++ [name]) = some (.link target) ∧
            fs.locate (base.child name) = .ok there ∧ fs.entry? there = some .directory) := by
  have hlisting := listing_of_locate hplace hdir
  have hsplit : fs.IsSubdirectory base name ↔ name ∈ fs.children place ∧
      ∃ there, fs.locate (base.child name) = .ok there ∧ fs.entry? there = some .directory := by
    rw [← isDirectory_eq_true_iff]
    constructor
    · rintro ⟨⟨names, hnames, hmem⟩, hleads⟩
      rw [hlisting] at hnames
      cases hnames
      exact ⟨hmem, hleads⟩
    · rintro ⟨hmem, hleads⟩
      exact ⟨⟨_, hlisting, hmem⟩, hleads⟩
  rw [hsplit]
  refine and_congr_right fun hmem => ?_
  have hlocate := locate_child hplace hdir (hfs place name hmem) (hexam name ⟨_, hlisting, hmem⟩)
  rcases hentry : fs.entry? (place ++ [name]) with _ | _ | content | target
  · simp [hlocate.1 hentry]
  · simp [hlocate.2 _ hentry (by simp), hentry]
  · simp [hlocate.2 _ hentry (by simp), hentry]
  · simp

/-! ## The scan -/

/-- The scan ranks the subdirectories that match, and takes the first one. -/
lemma bestMatch_value (fs : FileSystem) (base : Path) (node : String) (policy : MatchPolicy) :
    (fs.bestMatch base node policy).value
      = (fs.subdirectories base).map fun found =>
          (rankMatches (found.filter (policy.accepts · node))).head? := by
  rw [bestMatch]
  rcases fs.subdirectories base with fault | found
  · rfl
  · rcases hranked : rankMatches (found.filter (policy.accepts · node)) with _ | ⟨best, _ | ⟨_, _⟩⟩ <;>
      simp [Except.map, hranked]

/-- Where all names can be examined, the scan has a result. -/
lemma exists_bestMatch (hbase : fs.isDirectory base = .ok true) (hexam : fs.Examinable base)
    (node : String) (policy : MatchPolicy) :
    ∃ result, (fs.bestMatch base node policy).value = .ok result := by
  obtain ⟨found, hfound⟩ := (exists_subdirectories_iff hbase).2 hexam
  exact ⟨_, by rw [bestMatch_value, hfound]; rfl⟩

section Result

variable {node : String} {policy : MatchPolicy} {result : Option String}
  (h : (fs.bestMatch base node policy).value = .ok result)

include h

/-- The result of a scan is the first of the ranked candidates. -/
lemma exists_candidates :
    ∃ names, result = (rankMatches names).head? ∧
      ∀ name, name ∈ names ↔ fs.Candidate base policy node name := by
  rw [bestMatch_value] at h
  rcases hfound : fs.subdirectories base with fault | found <;> rw [hfound] at h
  · cases h
  · cases h
    refine ⟨_, rfl, fun name => ?_⟩
    rw [List.mem_filter, mem_subdirectories hfound, MatchPolicy.accepts_eq_true_iff]
    exact ⟨fun ⟨hsub, hid⟩ => ⟨hsub, hid⟩, fun ⟨hsub, hid⟩ => ⟨hsub, hid⟩⟩

/-- **Whom the scan gives.** -/
theorem bestMatch_eq_some_iff {name : String} :
    result = some name ↔ fs.Winner base policy node name := by
  obtain ⟨names, hresult, hmem⟩ := exists_candidates h
  have hwinner : ∀ best, (rankMatches names).head? = some best → fs.Winner base policy node best := by
    intro best hbest
    obtain ⟨hin, hle⟩ := length_le_of_head?_rankMatches hbest
    refine ⟨(hmem best).1 hin, fun other hother hne => ?_⟩
    have hlen := hle other ((hmem other).2 hother)
    -- Candidates of the same length are the same, so that the longest one is alone.
    have hneq : other.length ≠ best.length := fun heq =>
      hne (hother.identifies.eq_of_length_eq ((hmem best).1 hin).identifies heq)
    omega
  rw [hresult]
  constructor
  · exact hwinner name
  · intro hname
    have hin := mem_rankMatches.2 ((hmem name).2 hname.candidate)
    rcases hbest : (rankMatches names).head? with _ | best
    · rw [List.head?_eq_none_iff.1 hbest] at hin
      exact absurd hin List.not_mem_nil
    · rw [(hwinner best hbest).unique hname]

/-- **When the scan gives nobody.** -/
theorem bestMatch_eq_none_iff :
    result = none ↔ ∀ name, ¬ fs.Candidate base policy node name := by
  obtain ⟨names, hresult, hmem⟩ := exists_candidates h
  rw [hresult, List.head?_eq_none_iff]
  constructor
  · intro hnil name hname
    have hin := mem_rankMatches.2 ((hmem name).2 hname)
    rw [hnil] at hin
    exact absurd hin List.not_mem_nil
  · intro hnone
    rw [List.eq_nil_iff_forall_not_mem]
    exact fun name hname => hnone name ((hmem name).1 (mem_rankMatches.1 hname))

end Result
end FileSystem
end Keystore
