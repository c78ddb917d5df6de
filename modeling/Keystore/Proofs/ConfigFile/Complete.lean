/-
Which loaded configurations are complete.

A document is laid over the defaults, and then over their section.  Outside of the section a
configuration is what its document says (`KeepsRest`).  In the section, each setting has the value
that the document has for it, or else the default, and whatever else the document has there is
kept (`FilledIn`).

There is one exception.  A document may have the section without a value.  It is accepted like a
document without the section, but the merge puts the missing value in the place of the defaults,
so nothing of them is left in the configuration (`load_complete`).
-/
import Mathlib.Data.List.Basic
import Keystore.Proofs.ConfigFile.Section
import Keystore.Proofs.Entries.Overlay

namespace Keystore

namespace Entries

variable {entries changes : Entries} {key : Scalar}

/-- What only an update has is found as it is there. -/
lemma find?_merge_of_notMem (h : Distinct changes) (hnew : key.rank ∉ entries.map (·.1.rank)) :
    find? (merge entries changes) key = find? changes key := by
  have hnothing : ∀ v, updated none v = v := updated_of_old_not_mapping (by simp)
  rw [find?_merge h, find?_eq_none hnew]
  rcases find? changes key with _ | v
  · rfl
  · simp only [hnothing]

end Entries

namespace ConfigFile

variable {read : Reader} {fs : FileSystem} {path : Option String} {config entries own : Entries}

/-! ## What is stated -/

/-- What the file at a path states; without a path, or with an empty one, that is nothing. -/
inductive StatedBy (read : Reader) (fs : FileSystem) (path : Option String) : Entries → Prop where
  | nothing (h : nonempty? path = none) : StatedBy read fs path []
  | file {text : String} {entries : Entries} (h : nonempty? path = some text)
    (hentries : Outcome read fs (.ofString text) (.ok entries)) : StatedBy read fs path entries

lemma load_of_statedBy (h : StatedBy read fs path entries) :
    (load read fs path).value = .ok (Entries.merge defaults entries) := by
  cases h with
  | nothing h =>
    rw [load, h, Entries.merge]
    rfl
  | file h hentries =>
    rw [load, h]
    simp only [outcome_iff.1 hentries]

lemma exists_statedBy (h : (load read fs path).value = .ok config) :
    ∃ entries, StatedBy read fs path entries ∧ config = Entries.merge defaults entries := by
  rcases hpath : nonempty? path with _ | text
  · have hentries : StatedBy read fs path [] := .nothing hpath
    exact ⟨[], hentries, Except.ok.inj (h.symm.trans (load_of_statedBy hentries))⟩
  · rcases hstated : stated read fs (.ofString text) with fault | entries
    · rw [load, hpath] at h
      simp only [hstated] at h
      cases h
    · have hentries := StatedBy.file hpath (outcome_iff.2 hstated)
      exact ⟨entries, hentries, Except.ok.inj (h.symm.trans (load_of_statedBy hentries))⟩

/-- A path states one thing only. -/
lemma StatedBy.unique {entries' : Entries} (h : StatedBy read fs path entries)
    (h' : StatedBy read fs path entries') : entries = entries' := by
  cases h with
  | nothing h =>
    cases h' with
    | nothing _ => rfl
    | file h' _ => exact absurd (h.symm.trans h') (by simp)
  | file h hentries =>
    cases h' with
    | nothing h' => exact absurd (h.symm.trans h') (by simp)
    | file h' hentries' =>
      cases h.symm.trans h'
      exact Except.ok.inj ((outcome_iff.1 hentries).symm.trans (outcome_iff.1 hentries'))

lemma StatedBy.keyed (hread : read.Keyed) (h : StatedBy read fs path entries) :
    (Value.mapping entries).Keyed := by
  cases h with
  | nothing _ => exact .mapping Entries.distinct_nil fun _ he => by cases he
  | file _ hentries => exact keyed_of_outcome hread hentries

lemma StatedBy.sections (h : StatedBy read fs path entries) :
    Entries.get? entries sectionKey = none ∨ Entries.get? entries sectionKey = some .null ∨
      ∃ own, Entries.get? entries sectionKey = some (.mapping own) := by
  cases h with
  | nothing _ => exact Or.inl rfl
  | file _ hentries => exact section_of_outcome hentries

/-! ## Outside of the section -/

/-- The configuration has a section, and besides it what the document has. -/
structure KeepsRest (config entries : Entries) : Prop where
  /-- There are no other keys. -/
  keys : config.map (·.1) =
    .text sectionKey :: (entries.map (·.1)).filter (·.rank ≠ .text sectionKey)
  /-- Each of them stands for what it stands for in the document. -/
  other : ∀ key : Scalar, key.rank ≠ .text sectionKey →
    Entries.find? config key = Entries.find? entries key

lemma ranks_defaults : defaults.map (·.1.rank) = [.text sectionKey] := rfl

lemma keepsRest_merge (h : Entries.Distinct entries) :
    KeepsRest (Entries.merge defaults entries) entries := by
  refine ⟨?_, fun key hkey => Entries.find?_merge_of_notMem h ?_⟩
  · rw [Entries.keys_merge h, ranks_defaults]
    simp only [List.mem_singleton]
    rfl
  · rwa [ranks_defaults, List.mem_singleton]

/-! ## Inside of the section -/

/-- The section has every setting, with the value of the document or else the default, and besides
the settings what the document has there. -/
structure FilledIn (result own : Entries) : Prop where
  /-- There are no other keys. -/
  keys : result.map (·.1) = Setting.all.map (fun s => .text s.key) ++
    (own.map (·.1)).filter fun k => ∀ s ∈ Setting.all, k.rank ≠ .text s.key
  /-- A value of the document goes before the default. -/
  setting : ∀ s : Setting,
    Entries.get? result s.key = some ((Entries.get? own s.key).getD (defaultValue s))
  /-- Each other key stands for what it stands for in the document. -/
  other : ∀ key : Scalar, (∀ s ∈ Setting.all, key.rank ≠ .text s.key) →
    Entries.find? result key = Entries.find? own key

lemma rank_notMem_defaultSection_iff {key : Scalar} :
    key.rank ∉ defaultSection.map (·.1.rank) ↔ ∀ s ∈ Setting.all, key.rank ≠ .text s.key := by
  rw [defaultSection, List.map_map]
  simp only [List.mem_map, not_exists, not_and]
  exact forall₂_congr fun s _ => ne_comm

lemma filledIn_merge (h : Entries.Distinct own) :
    FilledIn (Entries.merge defaultSection own) own := by
  refine ⟨?_, get?_setting_merge h, fun key hkey =>
    Entries.find?_merge_of_notMem h (rank_notMem_defaultSection_iff.2 hkey)⟩
  rw [Entries.keys_merge h]
  simp only [rank_notMem_defaultSection_iff]
  rfl

/-- The section of a configuration, unless the document has one without a value. -/
lemma StatedBy.get?_section (hread : read.Keyed) (h : StatedBy read fs path entries)
    (hnull : Entries.get? entries sectionKey ≠ some .null) :
    Entries.get? (Entries.merge defaults entries) sectionKey
      = some (.mapping (Entries.merge defaultSection (ownSection entries))) :=
  get?_section_merge (h.keyed hread) (h.sections.imp_right fun hget => hget.resolve_left hnull)

/-! ## Loaded configurations -/

/-- **A loaded configuration is complete, unless its document has a section without a value.**  In
both cases it has what the document has outside of the section. -/
theorem load_complete {read : Reader} (hread : read.Keyed) (fs : FileSystem) (path : Option String)
    {config : Entries} (h : (load read fs path).value = .ok config) :
    ∃ entries, StatedBy read fs path entries ∧ KeepsRest config entries ∧
      (Entries.get? entries sectionKey ≠ some .null ↔
        ∃ own, Entries.get? config sectionKey = some (.mapping own) ∧
          FilledIn own (ownSection entries)) ∧
      (Entries.get? entries sectionKey = some .null →
        Entries.get? config sectionKey = some .null) := by
  obtain ⟨entries, hstated, rfl⟩ := exists_statedBy h
  have hkeyed := hstated.keyed hread
  have hnull := get?_section_merge_of_null hkeyed
  refine ⟨entries, hstated, keepsRest_merge (distinct_of_keyed hkeyed), ⟨fun hsome => ?_, ?_⟩,
    hnull⟩
  · exact ⟨_, hstated.get?_section hread hsome, filledIn_merge (distinct_ownSection hkeyed)⟩
  · rintro ⟨own, hown, -⟩ hget
    rw [hnull hget] at hown
    cases hown

/-- A working directory with a file that mentions one setting and more than settings, and with one
that has an empty section. -/
def partialFiles : FileSystem where
  entries :=
    [(["home"], .directory),
      (["home", "some.yml"], .file (Utf8.encode
      "version: 2\nsecurity:\n  notes: \x7bby: me\x7d\n  enable: true\n".toList)),
      (["home", "none.yml"], .file (Utf8.encode "security:\n".toList))]
  workingDirectory := ["home"]

/-- The entries of the first file. -/
def partialEntries : Entries :=
  [(.text "version", .scalar (.int 2)),
    (.text "security", .mapping
      [(.text "notes", .mapping [(.text "by", .text "me")]), (.text "enable", .bool true)])]

lemma statedBy_some : StatedBy Yaml.read partialFiles (some "some.yml") partialEntries := by
  have hreads : Reads Yaml.read partialFiles (.ofString "some.yml")
      (.ok (.mapping partialEntries)) :=
    ⟨_, ⟨["home", "some.yml"], by decide, rfl⟩, by decide +kernel⟩
  exact .file (nonempty?_eq_some_iff.2 ⟨rfl, by decide⟩) (.usable hreads (.settings rfl))

/-- The flag comes from the file, the policy from the defaults, and the notes are kept. -/
theorem load_complete_some :
    Reader.Keyed Yaml.read ∧
    (load Yaml.read partialFiles (some "some.yml")).value
      = .ok (Entries.merge defaults partialEntries) ∧
    ∃ own, Entries.get? (Entries.merge defaults partialEntries) "security"
        = some (.mapping own) ∧
      Entries.get? own "enable" = some (.bool true) ∧
      Entries.get? own "lookup_type" = some (.text "MATCH_EXACT") ∧
      Entries.get? own "notes" = some (.mapping [(.text "by", .text "me")]) := by
  have hload := load_of_statedBy statedBy_some
  obtain ⟨entries, hstated, -, hcomplete, -⟩ :=
    load_complete keyed_read partialFiles (some "some.yml") hload
  obtain rfl := hstated.unique statedBy_some
  obtain ⟨own, hown, hfilled⟩ := hcomplete.1 (by decide)
  exact ⟨keyed_read, hload, own, hown, hfilled.setting .enable, hfilled.setting .lookupType,
    hfilled.other (.text "notes") (by decide)⟩

/-- An empty section is accepted, and the configuration has no section with settings. -/
theorem load_incomplete :
    (load Yaml.read partialFiles (some "none.yml")).value = .ok [(.text "security", .null)] ∧
      ∀ own, Entries.get? [(.text "security", .null)] "security" ≠ some (.mapping own) := by
  have hreads : Reads Yaml.read partialFiles (.ofString "none.yml")
      (.ok (.mapping [(.text "security", .null)])) :=
    ⟨_, ⟨["home", "none.yml"], by decide, rfl⟩, by decide +kernel⟩
  have hstated : StatedBy Yaml.read partialFiles (some "none.yml") [(.text "security", .null)] :=
    .file (nonempty?_eq_some_iff.2 ⟨rfl, by decide⟩) (.usable hreads (.emptySection rfl))
  refine ⟨load_of_statedBy hstated, fun own hown => ?_⟩
  cases hown

end ConfigFile
end Keystore
