/-
Configuration files on top of each other.

Several files may be layered, each with a provider of its own that has the settings of the file.
A file is laid over the defaults before its settings are read off, so it does not only speak for
the settings that it has a text for: one that it leaves out (`LeavesOut`) has the text of the
default, and to the layers this is a text like any other (`spoken`).  An answer comes from the
first file that speaks (`stack_answers`).

So what a file says is hidden exactly by a file above it that leaves the setting out, if the
default for the setting is another text.  There are no default texts for the two directories, so
these are never hidden in this way.
-/
import Mathlib.Data.List.Forall2
import Keystore.Proofs.ConfigFile.Complete
import Keystore.Proofs.Provider.Flat
import Keystore.Proofs.Value

namespace Keystore

/-- A stack of settings answers with the first text in it. -/
lemma Provider.get_fixed_stack (src : Sources) (all : List Settings) (name : String) :
    (Provider.layered (all.map .fixed)).get src name = all.findSome? (·.value? name) := by
  rw [get]
  induction all with
  | nil => rfl
  | cons settings all ih =>
    rw [List.map_cons, getFirst_cons, ih, nonempty?_get, List.findSome?_cons, get]
    rcases settings.value? name with _ | text <;> rfl

namespace ConfigFile

variable {read : Reader} {fs : FileSystem} {path : Option String} {entries : Entries} {s : Setting}

/-! ## One file -/

/-- The document says nothing about the setting, and leaves it to the defaults. -/
def LeavesOut (entries : Entries) (s : Setting) : Prop :=
  Entries.get? entries sectionKey ≠ some .null ∧ ownValue entries s = none

instance (entries : Entries) (s : Setting) : Decidable (LeavesOut entries s) :=
  inferInstanceAs (Decidable (_ ∧ _))

/-- The text that a setting has once the document is laid over the defaults. -/
def loadedText (entries : Entries) (s : Setting) : Option String :=
  if LeavesOut entries s then rendering (defaultValue s) else ownText entries s

/-- The text that a file speaks for a setting as a layer, if it does. -/
def spoken (entries : Entries) (s : Setting) : Option String := nonempty? (loadedText entries s)

/-- The text that the document itself has for a setting, if it is not empty. -/
def explicit (entries : Entries) (s : Setting) : Option String := nonempty? (ownText entries s)

/-- The text that the default for a setting is, if it is one. -/
def defaultText (s : Setting) : Option String := nonempty? (rendering (defaultValue s))

lemma explicit_of_leavesOut (h : LeavesOut entries s) : explicit entries s = none := by
  rw [explicit, ownText, h.2]
  rfl

lemma spoken_eq (entries : Entries) (s : Setting) :
    spoken entries s = if LeavesOut entries s then defaultText s else explicit entries s :=
  apply_ite nonempty? _ _ _

/-- The section of a loaded configuration has the texts of the document and the defaults. -/
lemma exists_loadedTexts (hread : read.Keyed) (h : StatedBy read fs path entries)
    (hwritable : Writable entries) :
    ∃ own, sectionOf (Entries.merge defaults entries) = .ok own ∧
      ∀ s, textIn own s = .ok (loadedText entries s) := by
  by_cases hnull : Entries.get? entries sectionKey = some .null
  · refine ⟨[], ?_, fun s => ?_⟩
    · rw [sectionOf, get?_section_merge_of_null (h.keyed hread) hnull]
      rfl
    · rw [loadedText, if_neg fun hleaves => hleaves.1 hnull, ownText, ownValue_of_null hnull]
      rfl
  · refine ⟨_, by rw [sectionOf, h.get?_section hread hnull], fun s => ?_⟩
    rw [textIn, get?_setting_merge (distinct_ownSection (h.keyed hread)), ← ownValue_eq_get?]
    rcases hown : ownValue entries s with _ | v
    · rw [loadedText, if_pos ⟨hnull, hown⟩]
      exact settingText_defaultValue s
    · have hmentions : ¬ LeavesOut entries s := fun hleaves => by
        rw [hleaves.2] at hown
        cases hown
      rw [loadedText, if_neg hmentions, ownText, hown]
      exact settingText_of_writable (hwritable s v hown)

/-- The settings of a loaded configuration. -/
lemma settingsOf_of_writable (hread : read.Keyed) (h : StatedBy read fs path entries)
    (hwritable : Writable entries) :
    settingsOf (Entries.merge defaults entries)
      = .ok (Setting.all.map fun s => (s.variableName, loadedText entries s)) := by
  obtain ⟨own, hown, htexts⟩ := exists_loadedTexts hread h hwritable
  rw [settingsOf, hown]
  refine mapM_eq_ok fun s _ => ?_
  rw [htexts]
  rfl

/-- A value that cannot be written leaves no settings. -/
lemma settingsOf_of_unwritable (hread : read.Keyed) (h : StatedBy read fs path entries)
    (hwritable : ¬ Writable entries) :
    settingsOf (Entries.merge defaults entries) = .error .unwritable := by
  cases h with
  | nothing _ => exact absurd (fun s v hv => by cases hv) hwritable
  | file _ hentries =>
    obtain ⟨own, hown, htells⟩ := (exists_sections hread hentries).1
    rw [settingsOf, hown]
    exact sectionSettings_eq_error htells hwritable

/-! ## Some files -/

variable {documents : List Entries} {paths : List (Option String)} {configs : List Entries}

/-- What is answered by files that say nothing themselves: the default, if one of them leaves it
in. -/
lemma findSome?_spoken (h : ∀ u ∈ documents, explicit u s = none) :
    documents.findSome? (spoken · s)
      = if ∃ u ∈ documents, LeavesOut u s then defaultText s else none := by
  induction documents with
  | nil => simp
  | cons u documents ih =>
    have hrest := ih fun v hv => h v (List.mem_cons_of_mem u hv)
    rw [List.findSome?_cons, hrest, spoken_eq, h u List.mem_cons_self]
    by_cases hu : LeavesOut u s
    · rcases defaultText s with _ | text <;> simp [hu]
    · simp [hu]

/-- What several files answer for a setting, the first of them having the highest precedence. -/
structure StackAnswers (documents : List Entries) (s : Setting) (answer : Option String) :
    Prop where
  /-- The first file that speaks has the answer. -/
  first : answer = documents.findSome? (spoken · s)
  /-- The first text that a file has itself is the answer exactly if no file above it leaves the
  setting out, or if the default does not make a difference. -/
  hidden : ∀ upper d lower text, documents = upper ++ d :: lower →
    (∀ u ∈ upper, explicit u s = none) → explicit d s = some text →
    (answer = some text ↔
      (∀ u ∈ upper, ¬ LeavesOut u s) ∨ defaultText s = none ∨ defaultText s = some text)
  /-- If the default is no text, each file speaks for what it has a text for, and for nothing
  else. -/
  plain : defaultText s = none → answer = documents.findSome? (explicit · s)

lemma stackAnswers_spoken (documents : List Entries) (s : Setting) :
    StackAnswers documents s (documents.findSome? (spoken · s)) := by
  refine ⟨rfl, ?_, fun hnone => ?_⟩
  · rintro upper d lower text rfl hupper hd
    have hmentions : ¬ LeavesOut d s := fun hleaves => by
      rw [explicit_of_leavesOut hleaves] at hd
      cases hd
    rw [List.findSome?_append, findSome?_spoken hupper, List.findSome?_cons, spoken_eq,
      if_neg hmentions, hd]
    by_cases hleaves : ∃ u ∈ upper, LeavesOut u s
    · have hsome : ¬ ∀ u ∈ upper, ¬ LeavesOut u s := by
        simpa only [not_forall, not_not, exists_prop] using hleaves
      rw [if_pos hleaves, or_iff_right hsome]
      rcases defaultText s with _ | other <;> simp
    · have hno : ∀ u ∈ upper, ¬ LeavesOut u s := fun u hu hleft => hleaves ⟨u, hu, hleft⟩
      rw [if_neg hleaves, Option.none_or]
      exact iff_of_true rfl (Or.inl hno)
  · have hspoken : ∀ u, spoken u s = explicit u s := fun u => by
      rw [spoken_eq]
      split
      · next hleaves => rw [hnone, explicit_of_leavesOut hleaves]
      · rfl
    simp only [hspoken]

/-- Each of the files that are loaded states something. -/
lemma exists_documents
    (h : List.Forall₂ (fun path config => (load read fs path).value = .ok config) paths configs) :
    ∃ documents, List.Forall₂ (StatedBy read fs) paths documents ∧
      configs = documents.map (Entries.merge defaults) := by
  induction h with
  | nil => exact ⟨[], .nil, rfl⟩
  | cons hload _ ih =>
    obtain ⟨documents, hstated, rfl⟩ := ih
    obtain ⟨entries, hentries, rfl⟩ := exists_statedBy hload
    exact ⟨entries :: documents, .cons hentries hstated, rfl⟩

lemma statedBy_of_mem (h : List.Forall₂ (StatedBy read fs) paths documents) {d : Entries}
    (hd : d ∈ documents) : ∃ path, StatedBy read fs path d := by
  induction h with
  | nil => cases hd
  | cons hstated _ ih =>
    rcases List.mem_cons.1 hd with rfl | hd
    · exact ⟨_, hstated⟩
    · exact ih hd

/-- **Files on top of each other.**  If every value that a file has for a setting can be written,
all of them have settings, and layered these answer from the first file that speaks.  If some
value cannot be written, the settings of its file do not exist. -/
theorem stack_answers {read : Reader} (hread : read.Keyed) (fs : FileSystem)
    {paths : List (Option String)} {configs : List Entries}
    (h : List.Forall₂ (fun path config => (load read fs path).value = .ok config) paths configs) :
    ∃ documents, List.Forall₂ (StatedBy read fs) paths documents ∧
      ((∃ d ∈ documents, ¬ Writable d) → configs.mapM settingsOf = .error .unwritable) ∧
      ((∀ d ∈ documents, Writable d) → ∃ all, configs.mapM settingsOf = .ok all ∧
        ∀ src s, StackAnswers documents s
          ((Provider.layered (all.map .fixed)).setting src s)) := by
  obtain ⟨documents, hstated, rfl⟩ := exists_documents h
  have hsettings : ∀ d ∈ documents, Writable d → settingsOf (Entries.merge defaults d)
      = .ok (Setting.all.map fun s => (s.variableName, loadedText d s)) := fun d hd hwritable =>
    have ⟨_, hpath⟩ := statedBy_of_mem hstated hd
    settingsOf_of_writable hread hpath hwritable
  have hfault : ∀ d ∈ documents, ¬ Writable d →
      settingsOf (Entries.merge defaults d) = .error .unwritable := fun d hd hwritable =>
    have ⟨_, hpath⟩ := statedBy_of_mem hstated hd
    settingsOf_of_unwritable hread hpath hwritable
  refine ⟨documents, hstated, ?_, fun hwritable => ?_⟩
  · rintro ⟨d, hd, hunwritable⟩
    refine mapM_eq_error (fun config hconfig fault he => ?_)
      ⟨_, List.mem_map_of_mem hd, hfault d hd hunwritable⟩
    obtain ⟨d', hd', rfl⟩ := List.mem_map.1 hconfig
    by_cases hwritable : Writable d'
    · rw [hsettings d' hd' hwritable] at he
      cases he
    · rw [hfault d' hd' hwritable] at he
      cases he
      rfl
  · refine ⟨documents.map fun d => Setting.all.map fun s => (s.variableName, loadedText d s), ?_,
      fun src s => ?_⟩
    · rw [List.mapM_map]
      exact mapM_eq_ok fun d hd => hsettings d hd (hwritable d hd)
    · have hanswer := Provider.get_fixed_stack src
        (documents.map fun d => Setting.all.map fun s => (s.variableName, loadedText d s))
        s.variableName
      rw [List.findSome?_map] at hanswer
      simp only [Function.comp_def, value?_map_all] at hanswer
      rw [Provider.setting, hanswer]
      exact stackAnswers_spoken documents s

/-- A working directory with a file that demands security, and one that only names a root. -/
def stackedFiles : FileSystem where
  entries :=
    [(["home"], .directory),
      (["home", "on.yml"], .file (Utf8.encode
      "security:\n  lookup_type: MATCH_PREFIX\n  enable: true\n  strategy: Enforce\n".toList)),
      (["home", "root.yml"], .file (Utf8.encode "security:\n  root_directory: k\n".toList))]
  workingDirectory := ["home"]

/-- The entries of the first file. -/
def demandingEntries : Entries :=
  [(.text "security", .mapping
    [(.text "lookup_type", .text "MATCH_PREFIX"), (.text "enable", .bool true),
      (.text "strategy", .text "Enforce")])]

/-- The entries of the second file. -/
def rootEntries : Entries :=
  [(.text "security", .mapping [(.text "root_directory", .text "k")])]

lemma statedBy_on : StatedBy Yaml.read stackedFiles (some "on.yml") demandingEntries := by
  have hreads : Reads Yaml.read stackedFiles (.ofString "on.yml")
      (.ok (.mapping demandingEntries)) :=
    ⟨_, ⟨["home", "on.yml"], by decide, rfl⟩, by decide +kernel⟩
  exact .file (nonempty?_eq_some_iff.2 ⟨rfl, by decide⟩) (.usable hreads (.settings rfl))

lemma statedBy_root : StatedBy Yaml.read stackedFiles (some "root.yml") rootEntries := by
  have hreads : Reads Yaml.read stackedFiles (.ofString "root.yml") (.ok (.mapping rootEntries)) :=
    ⟨_, ⟨["home", "root.yml"], by decide, rfl⟩, by decide +kernel⟩
  exact .file (nonempty?_eq_some_iff.2 ⟨rfl, by decide⟩) (.usable hreads (.settings rfl))

lemma writable_demanding : Writable demandingEntries := by
  intro s v hv
  cases s <;> cases hv <;> decide +kernel

lemma writable_root : Writable rootEntries := by
  intro s v hv
  cases s <;> cases hv
  decide +kernel

/-- Below a file that demands security and names no directory, the root of the other file is found. -/
theorem stack_answers_root :
    Reader.Keyed Yaml.read ∧
    List.Forall₂ (fun path config => (load Yaml.read stackedFiles path).value = .ok config)
      [some "on.yml", some "root.yml"]
      [Entries.merge defaults demandingEntries, Entries.merge defaults rootEntries] ∧
    ∃ all, [Entries.merge defaults demandingEntries,
        Entries.merge defaults rootEntries].mapM settingsOf = .ok all ∧
      ∀ src, (Provider.layered (all.map .fixed)).setting src .rootDirectory = some "k" := by
  have hload : List.Forall₂
      (fun path config => (load Yaml.read stackedFiles path).value = .ok config)
      [some "on.yml", some "root.yml"]
      [Entries.merge defaults demandingEntries, Entries.merge defaults rootEntries] :=
    .cons (load_of_statedBy statedBy_on) (.cons (load_of_statedBy statedBy_root) .nil)
  obtain ⟨documents, hstated, -, hanswers⟩ := stack_answers keyed_read stackedFiles hload
  obtain rfl : documents = [demandingEntries, rootEntries] := by
    rcases hstated with _ | ⟨hon, _ | ⟨hroot, _ | _⟩⟩
    rw [hon.unique statedBy_on, hroot.unique statedBy_root]
  obtain ⟨all, hall, hanswer⟩ := hanswers (by
    intro d hd
    rcases List.mem_cons.1 hd with rfl | hd
    · exact writable_demanding
    · obtain rfl := List.mem_singleton.1 hd
      exact writable_root)
  refine ⟨keyed_read, hload, all, hall, fun src => ?_⟩
  exact ((hanswer src .rootDirectory).hidden [_] rootEntries [] "k" rfl (by decide) (by decide)).2
    (Or.inr (Or.inl (by decide)))

/-- Below a file that only names a root, none of the demands of the other file is heard: security is
off, failures are permitted, and names are compared as a whole. -/
theorem stack_hides :
    (load Yaml.read stackedFiles (some "root.yml")).value
      = .ok (Entries.merge defaults rootEntries) ∧
    (load Yaml.read stackedFiles (some "on.yml")).value
      = .ok (Entries.merge defaults demandingEntries) ∧
    (∀ s ∈ [Setting.lookupType, .enable, .strategy], ownValue rootEntries s = none) ∧
    explicit demandingEntries .lookupType = some "MATCH_PREFIX" ∧
    explicit demandingEntries .enable = some "true" ∧
    explicit demandingEntries .strategy = some "Enforce" ∧
    ∃ upper lower, settingsOf (Entries.merge defaults rootEntries) = .ok upper ∧
      settingsOf (Entries.merge defaults demandingEntries) = .ok lower ∧
      (Provider.layered [.fixed upper, .fixed lower]).setting {} .lookupType
        = some "MATCH_EXACT" ∧
      (Provider.layered [.fixed upper, .fixed lower]).setting {} .enable = some "false" ∧
      (Provider.layered [.fixed upper, .fixed lower]).setting {} .strategy
        = some "Permissive" := by
  exact ⟨load_of_statedBy statedBy_root, load_of_statedBy statedBy_on, by decide, by decide,
    by decide, by decide, _, _,
    settingsOf_of_writable keyed_read statedBy_root writable_root,
    settingsOf_of_writable keyed_read statedBy_on writable_demanding,
    by decide, by decide, by decide⟩

end ConfigFile
end Keystore
