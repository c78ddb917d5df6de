/-
What an entry does to the search for a node that it has nothing to do with.

A keystore serves many nodes, and the directory of one of them should be found whatever lies
beside it.  The file system with the entry in question is compared here with the one
without it, `FileSystem.clear`.  A *bystander* is an entry of the base that no other entry
leads through; that its name does not identify the node is assumed besides.

One expects that a bystander changes nothing.  But a scan examines everything that the base
lists before it looks at any name.  A bystander that can be examined is told apart from
the candidates by its name, and nothing else changes (`Bystander.bestMatch_eq`).  One that
cannot be examined spoils the scan for all nodes (`Bystander.bestMatch_fails`): a link
whose target has a name that is too long is enough, and so is a base with a path just short
enough for itself.  `resolve_bystander` says that these are the two cases, and which one
it is.
-/
import Mathlib.Data.List.Basic
import Keystore.Proofs.FileSystem.Trail
import Keystore.Proofs.Lookup.Raising
import Keystore.Proofs.Lookup.Search

namespace Keystore

namespace FileSystem

variable {fs fs' : FileSystem} {base : Path} {name : String}

/-! ## Scans without a name -/

/-- A name that can be examined may be left out of a list, if the others are examined as before. -/
lemma directoriesAmong_filter {names : List String}
    (hothers : ∀ other ∈ names, other ≠ name →
      fs'.isDirectory (base.child other) = fs.isDirectory (base.child other))
    (hname : ∃ answer, fs.isDirectory (base.child name) = .ok answer) :
    fs'.directoriesAmong base (names.filter (· ≠ name))
      = (fs.directoriesAmong base names).map fun found => found.filter (· ≠ name) := by
  induction names with
  | nil => rfl
  | cons first rest ih =>
    have hrest := ih fun other hother => hothers other (List.mem_cons_of_mem _ hother)
    rw [directoriesAmong]
    by_cases hfirst : first = name
    · -- Whatever the answer is, the name is not among those that are left.
      obtain ⟨answer, hanswer⟩ := hname
      rw [List.filter_cons_of_neg (by simp [hfirst]), hrest, hfirst, hanswer]
      rcases fs.directoriesAmong base rest with fault | found
      · rfl
      · cases answer <;> simp [Except.map]
    · rw [List.filter_cons_of_pos (by simp [hfirst]), directoriesAmong, hrest,
        hothers first List.mem_cons_self hfirst]
      rcases fs.isDirectory (base.child first) with fault | answer
      · rfl
      · rcases fs.directoriesAmong base rest with fault | found
        · rfl
        · cases answer <;> simp [Except.map, hfirst]

/-- Where a single name cannot be examined, its fault is reported. -/
lemma directoriesAmong_eq_error {names : List String} {fault : PathFault} (hmem : name ∈ names)
    (hname : fs.isDirectory (base.child name) = .error fault)
    (hothers : ∀ other ∈ names, other ≠ name →
      ∃ answer, fs.isDirectory (base.child other) = .ok answer) :
    fs.directoriesAmong base names = .error fault := by
  induction names with
  | nil => exact absurd hmem List.not_mem_nil
  | cons first rest ih =>
    rw [directoriesAmong]
    by_cases hfirst : first = name
    · rw [hfirst, hname]
    · -- What comes before the name has an answer, and the list goes on.
      obtain ⟨answer, hanswer⟩ := hothers first List.mem_cons_self hfirst
      have hrest := ih ((List.mem_cons.1 hmem).resolve_left fun heq => hfirst heq.symm)
        fun other hother => hothers other (List.mem_cons_of_mem _ hother)
      rw [hanswer, hrest]

/-- The scan is the same without names that do not identify the node. -/
lemma bestMatch_congr {policy : MatchPolicy} {node : String} (hid : ¬ policy.Identifies name node)
    (hsub : fs'.subdirectories base
      = (fs.subdirectories base).map fun found => found.filter (· ≠ name)) :
    fs'.bestMatch base node policy = fs.bestMatch base node policy := by
  have hfilter : ∀ found : List String,
      (found.filter (· ≠ name)).filter (policy.accepts · node)
        = found.filter (policy.accepts · node) := by
    intro found
    rw [List.filter_filter]
    refine List.filter_congr fun other _ => ?_
    by_cases heq : other = name
    · have hrefused : policy.accepts name node = false := by
        rwa [← Bool.not_eq_true, MatchPolicy.accepts_eq_true_iff]
      simp [heq, hrefused]
    · simp [heq]
  rw [bestMatch, bestMatch, hsub]
  rcases fs.subdirectories base with fault | found
  · rfl
  · simp only [Except.map, hfilter]

end FileSystem

/-! ## Bystanders -/

/-- The entry `name` is a bystander in the directory `dir` that the base leads to: it could as well
be missing, for all that the base and the other entries are concerned. -/
structure Bystander (fs : FileSystem) (base : Path) (dir : Place) (name : String) : Prop where
  /-- The directory lists the entry. -/
  listed : name ∈ fs.children dir
  /-- Without the entry there is nothing at its place. -/
  new : FileSystem.entry? (fs.clear (dir ++ [name])) (dir ++ [name]) = none
  /-- The base leads to the directory without the entry. -/
  leads : (fs.clear (dir ++ [name])).locate base = .ok dir
  /-- It is a directory. -/
  directory : FileSystem.entry? (fs.clear (dir ++ [name])) dir = some .directory
  /-- The other links in the directory do not lead through the entry. -/
  avoided : ∀ other target, other ≠ name → fs.entry? (dir ++ [other]) = some (.link target) →
    dir ++ [name] ∉ fs.trail (base.child other)

namespace Bystander

open FileSystem

variable {fs : FileSystem} {base : Path} {dir : Place} {name node : String} {policy : MatchPolicy}

lemma not_below (dir : Place) (name : String) : ¬ dir ++ [name] <+: dir := fun hbelow => by
  have hlength := hbelow.length_le
  rw [List.length_append, List.length_singleton] at hlength
  omega

section

variable (h : Bystander fs base dir name)

include h

lemma leads_with : fs.locate base = .ok dir :=
  locate_of_clear (by simp) h.new h.leads

lemma directory_with : fs.entry? dir = some .directory := by
  rw [← entry_clear_of_not_below (not_below dir name)]
  exact h.directory

lemma isDirectory_base :
    fs.isDirectory base = .ok true ∧ (fs.clear (dir ++ [name])).isDirectory base = .ok true :=
  ⟨isDirectory_eq_true_iff.2 ⟨dir, h.leads_with, h.directory_with⟩,
    isDirectory_eq_true_iff.2 ⟨dir, h.leads, h.directory⟩⟩

lemma listings :
    fs.listing base = .ok (fs.children dir) ∧
      (fs.clear (dir ++ [name])).listing base = .ok ((fs.children dir).filter (· ≠ name)) := by
  rw [← children_clear]
  exact ⟨listing_of_locate h.leads_with h.directory_with, listing_of_locate h.leads h.directory⟩

/-- What lies beside a bystander is examined as without it. -/
lemma isDirectory_other (hfs : fs.WellNamed) {other : String} (hmem : other ∈ fs.children dir)
    (hne : other ≠ name) :
    (fs.clear (dir ++ [name])).isDirectory (base.child other)
      = fs.isDirectory (base.child other) := by
  have hentry : entry? (fs.clear (dir ++ [name])) (dir ++ [other])
      = fs.entry? (dir ++ [other]) := by
    refine entry_clear_of_not_below fun hbelow => hne ?_
    simpa [eq_comm] using hbelow
  by_cases hlink : ∃ target, fs.entry? (dir ++ [other]) = some (.link target)
  · obtain ⟨target, htarget⟩ := hlink
    exact isDirectory_clear (by simp) h.new (h.avoided other target hne htarget)
  · -- What is no link leads nowhere else.
    have hname := hfs dir other hmem
    rw [isDirectory_child h.leads_with h.directory_with hname (not_exists.1 hlink),
      isDirectory_child h.leads h.directory hname (hentry ▸ not_exists.1 hlink), hentry]

/-- **A bystander that can be examined changes nothing.** -/
lemma bestMatch_eq (hfs : fs.WellNamed) (hid : ¬ policy.Identifies name node)
    (hexam : fs.locate (base.child name) ≠ .error .nameTooLong) :
    (fs.clear (dir ++ [name])).bestMatch base node policy = fs.bestMatch base node policy := by
  have hname : ∃ answer, fs.isDirectory (base.child name) = .ok answer := by
    rcases hanswer : fs.isDirectory (base.child name) with fault | answer
    · exact absurd (isDirectory_eq_error_iff.1 hanswer).1 hexam
    · exact ⟨answer, rfl⟩
  refine bestMatch_congr hid ?_
  rw [subdirectories, subdirectories, h.listings.1, h.listings.2]
  exact directoriesAmong_filter (fun other hmem hne => h.isDirectory_other hfs hmem hne) hname

/-- **A bystander that cannot be examined spoils the scan**, with its own fault unless something else
does so, too. -/
lemma bestMatch_fails (hfs : fs.WellNamed)
    (hlong : fs.locate (base.child name) = .error .nameTooLong) (node : String)
    (policy : MatchPolicy) :
    ∃ fault, (fs.bestMatch base node policy).value = .error fault ∧
      ((∃ result, ((fs.clear (dir ++ [name])).bestMatch base node policy).value = .ok result) →
        fault = ⟨.nameTooLong, base.child name⟩) := by
  have hname := isDirectory_eq_error_iff.2 ⟨hlong, rfl⟩
  rw [bestMatch_value, bestMatch_value, subdirectories, subdirectories, h.listings.1, h.listings.2]
  dsimp only
  rcases hfound : fs.directoriesAmong base (fs.children dir) with fault | found
  · refine ⟨fault, rfl, ?_⟩
    rintro ⟨result, hresult⟩
    rcases hwithout : (fs.clear (dir ++ [name])).directoriesAmong base
        ((fs.children dir).filter (· ≠ name)) with fault' | found'
    · rw [hwithout] at hresult
      cases hresult
    · -- The scan without the bystander has examined all others.
      have hothers : ∀ other ∈ fs.children dir, other ≠ name →
          ∃ answer, fs.isDirectory (base.child other) = .ok answer := by
        intro other hmem hne
        rw [← h.isDirectory_other hfs hmem hne]
        exact exists_isDirectory_of_directoriesAmong hwithout other
          (List.mem_filter.2 ⟨hmem, by simpa using hne⟩)
      rw [directoriesAmong_eq_error h.listed hname hothers] at hfound
      cases hfound
      rfl
  · obtain ⟨answer, hanswer⟩ := exists_isDirectory_of_directoriesAmong hfound name h.listed
    rw [hname] at hanswer
    cases hanswer

end
end Bystander

/-! ## Lookups beside a bystander -/

/-- The lookup searches the base for the node under the policy. -/
structure SearchOf (i : Identity) (config : LookupConfig) (base : Path) (node : String)
    (policy : MatchPolicy) : Prop where
  /-- The root is searched, and the base is that of the identity. -/
  root : ∃ root, config.Searches root ∧ i.baseUnder root = base
  /-- The identity is well formed. -/
  valid : i.fault? = none
  /-- The node is looked for. -/
  name : i.name = node
  /-- The policy is used. -/
  policy : config.policy = policy

/-- What a lookup says: the path, or the cause of there being none. -/
def Resolution.answer (r : Resolution) : Except LookupFault (Option String × Option Cause) :=
  r.outcome.map fun result => (result.path?, result.cause?)

section Search

variable {fs fs' : FileSystem} {i : Identity} {config : LookupConfig} {base : Path} {node : String}
  {policy : MatchPolicy} {allocate : String → Except AllocationFault String}

lemma SearchOf.resolve_eq (h : SearchOf i config base node policy) :
    resolve fs i config allocate = resolveBelow fs i base policy allocate := by
  obtain ⟨root, hsearches, hbase⟩ := h.root
  simp only [resolve, hsearches.override, h.valid, hsearches.root, hbase, h.policy]

/-- A search learns from the files whether the base is a directory, and the result of the scan. -/
lemma SearchOf.resolve_congr (h : SearchOf i config base node policy)
    (hbase : fs'.isDirectory base = fs.isDirectory base)
    (hscan : fs'.bestMatch base node policy = fs.bestMatch base node policy) :
    resolve fs' i config allocate = resolve fs i config allocate := by
  rw [h.resolve_eq, h.resolve_eq, resolveBelow, resolveBelow, hbase, h.name, hscan]

/-- A scan that fails makes a base that cannot be read. -/
lemma SearchOf.outcome_of_fault (h : SearchOf i config base node policy)
    (hbase : fs.isDirectory base = .ok true) {fault : PathFault}
    (hscan : (fs.bestMatch base node policy).value = .error fault) :
    (resolve fs i config allocate).outcome
      = .ok (.notFound .baseNotFound (Diagnostic.baseUnreadable base fault)) := by
  rw [h.resolve_eq, resolveBelow, hbase, h.name]
  simp only [hscan]
  rfl

/-- A scan that gives a name makes the path of this name. -/
lemma SearchOf.outcome_of_match (h : SearchOf i config base node policy)
    (hbase : fs.isDirectory base = .ok true) {best : String}
    (hscan : (fs.bestMatch base node policy).value = .ok (some best)) :
    (resolve fs i config allocate).outcome
      = (Verdict.deliver (base.append [best]).render).outcome allocate := by
  rw [h.resolve_eq, resolveBelow, hbase, h.name]
  simp only [hscan, Resolution.delivered_outcome]

/-- Where the scan has a result, the base can be read. -/
lemma SearchOf.answer_ne (h : SearchOf i config base node policy)
    (hbase : fs.isDirectory base = .ok true) {result : Option String}
    (hscan : (fs.bestMatch base node policy).value = .ok result) :
    (resolve fs i config allocate).answer ≠ .ok (none, some .baseNotFound) := by
  rw [Resolution.answer]
  rcases result with _ | best
  · rw [h.resolve_eq, resolveBelow, hbase, h.name]
    simp only [hscan]
    simp [Resolution.failed, Except.map, LookupResult.cause?]
  · -- The allocator may still refuse, but then the cause is another one.
    rw [h.outcome_of_match hbase hscan, Verdict.outcome]
    rcases allocate (base.append [best]).render with (detail | detail | detail) | owned <;>
      simp [Except.map, LookupResult.path?, LookupResult.cause?]

end Search

/-- What a bystander does to scans of the base for the node, and to the searches that use them. -/
structure Bystander.Effect (fs : FileSystem) (base : Path) (dir : Place) (name node : String)
    (policy : MatchPolicy) : Prop where
  /-- If it can be examined, the scan is the same, and so is every search. -/
  harmless : fs.locate (base.child name) ≠ .error .nameTooLong →
    fs.bestMatch base node policy = (fs.clear (dir ++ [name])).bestMatch base node policy ∧
      ∀ i config allocate, SearchOf i config base node policy →
        resolve fs i config allocate = resolve (fs.clear (dir ++ [name])) i config allocate
  /-- If not, then no scan has a result, and every search takes the base for one that cannot be
  read. -/
  harmful : fs.locate (base.child name) = .error .nameTooLong →
    ∃ fault, (fs.bestMatch base node policy).value = .error fault ∧
      ((∃ result, ((fs.clear (dir ++ [name])).bestMatch base node policy).value = .ok result) →
        fault = ⟨.nameTooLong, base.child name⟩) ∧
      ∀ i config allocate, SearchOf i config base node policy →
        (resolve fs i config allocate).outcome
          = .ok (.notFound .baseNotFound (Diagnostic.baseUnreadable base fault))
  /-- So the match is the same exactly if the bystander can be examined, or something else has the
  same effect. -/
  match_eq_iff : (fs.bestMatch base node policy).value.toOption
      = ((fs.clear (dir ++ [name])).bestMatch base node policy).value.toOption ↔
    fs.locate (base.child name) ≠ .error .nameTooLong ∨
      ∃ fault, ((fs.clear (dir ++ [name])).bestMatch base node policy).value = .error fault
  /-- And so is what a search says. -/
  answer_eq_iff : ∀ i config allocate, SearchOf i config base node policy →
    ((resolve fs i config allocate).answer
        = (resolve (fs.clear (dir ++ [name])) i config allocate).answer ↔
      fs.locate (base.child name) ≠ .error .nameTooLong ∨
        ∃ fault, ((fs.clear (dir ++ [name])).bestMatch base node policy).value = .error fault)
  /-- A file or a directory can be examined unless its name or the text of its path is too long. -/
  proper : (∀ target, fs.entry? (dir ++ [name]) ≠ some (.link target)) →
    (fs.locate (base.child name) = .error .nameTooLong ↔
      FileSystem.pathLimit ≤ (base.child name).render.utf8ByteSize ∨
        FileSystem.nameLimit < name.utf8ByteSize)

/-- **A node is found whatever lies beside its directory, if it can be examined.**  Taking a bystander
away that does not identify the node changes the answer exactly if the bystander cannot be
examined and everything else can. -/
theorem resolve_bystander {fs : FileSystem} {base : Path} {dir : Place} {name node : String}
    {policy : MatchPolicy} (hfs : fs.WellNamed) (h : Bystander fs base dir name)
    (hid : ¬ policy.Identifies name node) : Bystander.Effect fs base dir name node policy := by
  have hbase := h.isDirectory_base
  have hsame : fs.locate (base.child name) ≠ .error .nameTooLong →
      fs.bestMatch base node policy = (fs.clear (dir ++ [name])).bestMatch base node policy :=
    fun hexam => (h.bestMatch_eq hfs hid hexam).symm
  have hsearch : fs.locate (base.child name) ≠ .error .nameTooLong →
      ∀ i config allocate, SearchOf i config base node policy →
        resolve fs i config allocate = resolve (fs.clear (dir ++ [name])) i config allocate :=
    fun hexam i config allocate hof =>
      hof.resolve_congr (hbase.1.trans hbase.2.symm) (hsame hexam)
  -- Whose fault it is does not matter for the answer.
  have hspoiled : ∀ {fault}, (fs.bestMatch base node policy).value = .error fault →
      ∀ i config allocate, SearchOf i config base node policy →
        (resolve fs i config allocate).answer = .ok (none, some .baseNotFound) := by
    intro fault hscan i config allocate hof
    rw [Resolution.answer, hof.outcome_of_fault hbase.1 hscan]
    rfl
  refine ⟨fun hexam => ⟨hsame hexam, hsearch hexam⟩, ?_, ?_, ?_, ?_⟩
  · intro hlong
    obtain ⟨fault, hscan, hown⟩ := h.bestMatch_fails hfs hlong node policy
    exact ⟨fault, hscan, hown, fun i config allocate hof => hof.outcome_of_fault hbase.1 hscan⟩
  · by_cases hexam : fs.locate (base.child name) = .error .nameTooLong
    · obtain ⟨fault, hscan, -⟩ := h.bestMatch_fails hfs hexam node policy
      rw [hscan]
      rcases ((fs.clear (dir ++ [name])).bestMatch base node policy).value with fault' | result
      · exact ⟨fun _ => Or.inr ⟨fault', rfl⟩, fun _ => rfl⟩
      · simp [hexam, Except.toOption]
    · exact ⟨fun _ => Or.inl hexam, fun _ => by rw [hsame hexam]⟩
  · intro i config allocate hof
    by_cases hexam : fs.locate (base.child name) = .error .nameTooLong
    · obtain ⟨fault, hscan, -⟩ := h.bestMatch_fails hfs hexam node policy
      rw [hspoiled hscan i config allocate hof]
      rcases hwithout : ((fs.clear (dir ++ [name])).bestMatch base node policy).value with
        fault' | result
      · refine ⟨fun _ => Or.inr ⟨fault', rfl⟩, fun _ => ?_⟩
        rw [Resolution.answer, hof.outcome_of_fault hbase.2 hwithout]
        rfl
      · have hne : (resolve (fs.clear (dir ++ [name])) i config allocate).answer
            ≠ .ok (none, some .baseNotFound) := hof.answer_ne hbase.2 hwithout
        simp [hexam, hne.symm]
    · exact ⟨fun _ => Or.inl hexam, fun _ => by rw [hsearch hexam i config allocate hof]⟩
  · intro hlink
    have hname := hfs dir name h.listed
    have hchild := FileSystem.isDirectory_child h.leads_with h.directory_with hname hlink
    split at hchild
    · next hsize => exact ⟨fun _ => hsize, fun _ => (FileSystem.isDirectory_eq_error_iff.1 hchild).1⟩
    · next hsize =>
      exact ⟨fun hlong => absurd hlong (FileSystem.locate_ne_nameTooLong hchild),
        fun hmem => absurd hmem hsize⟩

/-- A link to itself beside the directory of a node changes nothing about the lookup of the node. -/
theorem resolve_bystander_sampleFiles :
    resolve sampleFiles ⟨"talker_4", "/b"⟩ ⟨some "k", none, .whole⟩ (Allocator.pool "keys").allocate
      = resolve (sampleFiles.clear ["home", "k", "b", "talk"]) ⟨"talker_4", "/b"⟩
          ⟨some "k", none, .whole⟩ (Allocator.pool "keys").allocate := by
  have hbystander : Bystander sampleFiles (.ofString "k/b") ["home", "k", "b"] "talk" := by
    refine ⟨by decide, by decide, by decide, by decide, ?_⟩
    intro other target hne hlink
    have hmem := FileSystem.mem_entries_of_entry hlink (by simp)
    -- There is only one other link.
    obtain rfl : other = "talker_4" := by
      simp [sampleFiles] at hmem
      tauto
    decide
  have hof : SearchOf ⟨"talker_4", "/b"⟩ ⟨some "k", none, .whole⟩ (.ofString "k/b") "talker_4"
      .whole := ⟨⟨"k", ⟨rfl, rfl⟩, by decide⟩, by decide, rfl, rfl⟩
  have heffect := resolve_bystander wellNamed_sampleFiles hbystander
    (show ¬ MatchPolicy.whole.Identifies "talk" "talker_4" by simp [MatchPolicy.Identifies])
  exact (heffect.harmless (by decide)).2 _ _ _ hof

/-! ## A link that gets a node lost -/

/-- A keystore below the working directory `/home`: the directory of a node, and a link. -/
def crowdedFiles (target : String) : FileSystem where
  entries :=
    [(["home"], .directory),
      (["home", "k"], .directory), (["home", "k", "talker"], .directory),
      (["home", "k", "other"], .link target)]
  workingDirectory := ["home"]

lemma wellNamed_crowdedFiles (target : String) : (crowdedFiles target).WellNamed := by
  have hbuild : (FileSystem.bare ["home"]).build
      [.directory "k/talker", .link "k/other" target] = .ok (crowdedFiles target) := by rfl
  exact (FileSystem.wellNamed_bare (by decide)).build hbuild

lemma bystander_crowdedFiles (target : String) :
    Bystander (crowdedFiles target) (.ofString "k") ["home", "k"] "other" := by
  have hchildren : (crowdedFiles target).children ["home", "k"] = ["talker", "other"] := rfl
  refine ⟨by simp [hchildren], rfl, rfl, rfl, ?_⟩
  intro other target' hne hlink
  have hmem := FileSystem.mem_entries_of_entry hlink (by simp)
  simp [crowdedFiles, hne] at hmem

/-- A link with the name of an entry as its target goes on with this name. -/
lemma FileSystem.linkNames_of_isPiece {target : String} (h : IsPiece target) :
    linkNames target = [target] := by
  have hpieces : pieces target = [target] := by
    have hjoined : pieces (joinSlash [target]) = [target] := pieces_joined (by simpa using h)
    simpa [joinSlash] using hjoined
  have hlast : target.toList.getLast? ≠ some '/' := fun hlast =>
    h.2 (List.mem_of_getLast? hlast)
  rw [linkNames, hpieces, if_neg hlast]
  rfl

/-- The link cannot be examined if its target is a name that is too long. -/
lemma locate_crowdedFiles {target : String} (hname : isEntryName target)
    (hlong : FileSystem.nameLimit < target.utf8ByteSize) :
    (crowdedFiles target).locate ((Path.ofString "k").child "other") = .error .nameTooLong := by
  have hway : (crowdedFiles target).locate ((Path.ofString "k").child "other")
      = (crowdedFiles target).walk 39 (FileSystem.linkStart ["home", "k"] target)
          (FileSystem.linkNames target ++ []) := rfl
  have hstart : FileSystem.entry? (crowdedFiles target) (FileSystem.linkStart ["home", "k"] target)
      = some .directory := by
    rw [FileSystem.linkStart]
    split <;> rfl
  rw [hway, FileSystem.linkNames_of_isPiece (isPiece_of_isEntryName hname), FileSystem.walk,
    List.append_nil, FileSystem.stretch, if_neg (by simp [hstart]),
    if_neg (ne_dot_of_isEntryName hname), if_neg (ne_dotdot_of_isEntryName hname), if_pos hlong]

/-- **A link gets a node lost** that has nothing to do with it: one that points to a name of 256
letters, in the directory where the node is found without it. -/
theorem resolve_spoiled :
    Bystander (crowdedFiles (letters 256)) (.ofString "k") ["home", "k"] "other" ∧
      ¬ MatchPolicy.whole.Identifies "other" "talker" ∧
      SearchOf ⟨"talker", "/"⟩ ⟨some "k", none, .whole⟩ (.ofString "k") "talker" .whole ∧
      (resolve ((crowdedFiles (letters 256)).clear ["home", "k", "other"]) ⟨"talker", "/"⟩
        ⟨some "k", none, .whole⟩ Allocator.untracked.allocate).answer
          = .ok (some "k/talker", none) ∧
      (resolve (crowdedFiles (letters 256)) ⟨"talker", "/"⟩
        ⟨some "k", none, .whole⟩ Allocator.untracked.allocate).answer
          = .ok (none, some .baseNotFound) := by
  have hbystander := bystander_crowdedFiles (letters 256)
  have hof : SearchOf ⟨"talker", "/"⟩ ⟨some "k", none, .whole⟩ (.ofString "k") "talker" .whole :=
    ⟨⟨"k", ⟨rfl, rfl⟩, by decide⟩, by decide, rfl, rfl⟩
  have hlong : FileSystem.nameLimit < (letters 256).utf8ByteSize := by
    simp [utf8ByteSize_letters, FileSystem.nameLimit]
  obtain ⟨fault, hscan, -⟩ := hbystander.bestMatch_fails (wellNamed_crowdedFiles _)
    (locate_crowdedFiles (isEntryName_letters (by decide)) hlong) "talker" .whole
  refine ⟨hbystander, by simp [MatchPolicy.Identifies], hof, ?_, ?_⟩
  · have hclear : (crowdedFiles (letters 256)).clear ["home", "k", "other"]
        = ⟨[(["home"], .directory), (["home", "k"], .directory),
            (["home", "k", "talker"], .directory)], ["home"]⟩ := rfl
    have hsub : ((crowdedFiles (letters 256)).clear ["home", "k", "other"]).subdirectories
        (.ofString "k") = .ok ["talker"] := by
      rw [hclear]
      decide
    have hmatch : (((crowdedFiles (letters 256)).clear ["home", "k", "other"]).bestMatch
        (.ofString "k") "talker" .whole).value = .ok (some "talker") := by
      rw [FileSystem.bestMatch_value, hsub]
      simp [Except.map, rankMatches, MatchPolicy.accepts]
    have hbase : ((crowdedFiles (letters 256)).clear ["home", "k", "other"]).isDirectory
        (.ofString "k") = .ok true := hbystander.isDirectory_base.2
    rw [Resolution.answer, hof.outcome_of_match hbase hmatch]
    rfl
  · rw [Resolution.answer, hof.outcome_of_fault hbystander.isDirectory_base.1 hscan]
    rfl

end Keystore
