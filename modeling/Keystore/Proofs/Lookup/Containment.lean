/-
Whether a search stays below its root.

The segments of a namespace are names behind the root, and what is searched for is one
more name behind them.  None of these names is looked at before it is used.  A segment
`..` goes up, and nothing keeps a namespace from going up further than it has come down,
so that the base of an identity may well be the directory above the root, or a neighbour
of the root.  `baseUnder_inside` says exactly when it is not: the segments have to come
down again through the names of the root that they went up over.  Namespaces without `..`
go straight down and always stay inside; and where the base stays inside, so does every
path that a search hands out.
-/
import Mathlib.Data.List.Basic
import Keystore.Proofs.Lookup.Search
import Keystore.Proofs.Path.Lexical

namespace Keystore

namespace Path

/-- What lies below a path inside the root is inside the root. -/
lemma Inside.child {p root : Path} (h : p.Inside root) {name : String} (hname : name ≠ "..") :
    (p.child name).Inside root := by
  obtain ⟨below, hbelow, heq⟩ := h
  have hnames : p.settled.names = root.settled.names ++ below := by rw [heq]
  have horigin : p.settled.origin = root.settled.origin := by rw [heq]
  have hchild : (p.child name).settled = ⟨p.settled.origin, p.settled.names ++ [name]⟩ := by
    rw [settled, Path.child, List.foldl_append]
    simp [settled, settle, hname]
  refine ⟨below ++ [name], ?_, ?_⟩
  · rw [List.mem_append, List.mem_singleton, not_or]
    exact ⟨hbelow, fun heq => hname heq.symm⟩
  · rw [hchild, hnames, horigin, List.append_assoc]

end Path

/-- A search hands out paths inside the root if its base is inside. -/
lemma inside_of_mem_requests {fs : FileSystem} {i : Identity} {config : LookupConfig} {root : String}
    (allocate : String → Except AllocationFault String) (hfs : fs.WellNamed)
    (hconfig : config.Searches root) (hi : i.fault? = none)
    (hinside : (i.baseUnder root).Inside (.ofString root)) {path : String}
    (hpath : path ∈ (resolve fs i config allocate).requests) :
    (Path.ofString path).Inside (.ofString root) := by
  rw [resolve_requests, verdict_of_searches hconfig hi, Verdict.mem_requests_iff] at hpath
  obtain ⟨-, name, hname, heq⟩ :=
    exists_subdirectory_of_deliver hfs (i.proper_baseUnder root) hpath
  rw [heq]
  exact hinside.child (ne_dotdot_of_isEntryName (hname.isEntryName hfs))

/-- **When a search stays below its root.**  The base is inside the root exactly if the segments
of the namespace retrace what they went up over, in particular if no segment goes up; and then
every path that the search hands out is inside as well. -/
theorem baseUnder_inside (i : Identity) (root : String) :
    ((i.baseUnder root).Inside (.ofString root) ↔
        (Detour.through (i.segments.filter (· ≠ "."))).Retraces (Path.ofString root).settled) ∧
      (".." ∉ i.segments → (i.baseUnder root).Inside (.ofString root)) ∧
      ((i.baseUnder root).Inside (.ofString root) →
        ∀ (fs : FileSystem) (config : LookupConfig)
          (allocate : String → Except AllocationFault String),
          fs.WellNamed → config.Searches root → i.fault? = none →
            ∀ path ∈ (resolve fs i config allocate).requests,
              (Path.ofString path).Inside (.ofString root)) := by
  have hiff : (i.baseUnder root).Inside (.ofString root) ↔
      (Detour.through (i.segments.filter (· ≠ "."))).Retraces (Path.ofString root).settled := by
    rw [i.baseUnder_eq_append]
    exact Path.inside_append_iff _ _
  refine ⟨hiff, ?_, ?_⟩
  · intro hup
    have hnone : ".." ∉ i.segments.filter (· ≠ ".") := fun hmem => hup (List.mem_filter.1 hmem).1
    rw [hiff, Detour.through_of_dotdot_notMem hnone]
    exact Detour.retraces_of_up_eq_zero rfl _
  · intro hinside fs config allocate hfs hconfig hi path hpath
    exact inside_of_mem_requests allocate hfs hconfig hi hinside hpath

/-- A namespace that leaves the root and comes back to it, and what is handed out there. -/
theorem baseUnder_inside_retraced :
    ((Identity.mk "talker" "/../k/./b").baseUnder "k").Inside (.ofString "k") ∧
      ∀ path ∈ (resolve sampleFiles ⟨"talker", "/../k/./b"⟩ ⟨some "k", none, .whole⟩
        (Allocator.pool "keys").allocate).requests, (Path.ofString path).Inside (.ofString "k") := by
  have hinside := (baseUnder_inside ⟨"talker", "/../k/./b"⟩ "k").1.2 (by decide)
  exact ⟨hinside, (baseUnder_inside ⟨"talker", "/../k/./b"⟩ "k").2.2 hinside sampleFiles
    ⟨some "k", none, .whole⟩ _ wellNamed_sampleFiles ⟨rfl, rfl⟩ (by decide)⟩

/-- A namespace without faults can lead above the root. -/
theorem not_inside_baseUnder_dotdot :
    (Identity.mk "talker" "/..").fault? = none ∧
      ¬ ((Identity.mk "talker" "/..").baseUnder "keystore").Inside (.ofString "keystore") := by
  refine ⟨by decide, ?_⟩
  rw [Identity.baseUnder_eq_append]
  exact (Path.inside_append_iff _ _).not.2 (by decide)

end Keystore
