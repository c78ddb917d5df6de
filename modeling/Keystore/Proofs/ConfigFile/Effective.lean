/-
The settings of the environment over those of a file.

With a file below the environment, a node is looked up, secured and enforced as with one mapping
that has for each setting the text of the environment if it is not empty, and otherwise the text
that the file states (`filledUp`).  The texts that a loaded configuration has besides these are
defaults, and a default never asks for anything else than no text does (`sameChoices`).

There is one exception.  A value that the file has for a setting, and that cannot be written, leaves no
settings at all, also where the environment has the setting.
-/
import Mathlib.Algebra.Ring.Int.Defs
import Keystore.Proofs.ConfigFile.Section
import Keystore.Proofs.Options
import Keystore.Proofs.Provider

namespace Keystore

/-! ## The same choices -/

namespace Provider

/-- Two providers, each with its sources, lead to the same lookups and options. -/
structure SameChoices (src : Sources) (p : Provider) (src' : Sources) (p' : Provider) : Prop where
  read : p.read src = p'.read src'
  enables : p.enables src = p'.enables src'
  enforcement : p.enforcement src = p'.enforcement src'
  options : ∀ fs identity allocate,
    securityOptions fs src identity p allocate = securityOptions fs src' identity p' allocate

variable {src src' : Sources} {p p' : Provider}

lemma securityOptions_congr (hread : p.read src = p'.read src')
    (henables : p.enables src = p'.enables src')
    (henforcement : p.enforcement src = p'.enforcement src') (fs : FileSystem)
    (identity : Identity) (allocate : String → Except AllocationFault String) :
    securityOptions fs src identity p allocate = securityOptions fs src' identity p' allocate := by
  rw [securityOptions, securityOptions, secureRoot, secureRoot, hread, henables, henforcement]

/-- **A default asks for nothing else than no text does.** -/
lemma sameChoices
    (h : ∀ s, p.setting src s = p'.setting src' s ∨
      p'.setting src' s = none ∧
        p.setting src s = nonempty? (ConfigFile.rendering (ConfigFile.defaultValue s))) :
    SameChoices src p src' p' := by
  -- The defaults for the two places state no text at all.
  have hread : p.read src = p'.read src' := by
    have hroot : p.setting src .rootDirectory = p'.setting src' .rootDirectory :=
      (h .rootDirectory).elim id fun h => h.2.trans h.1.symm
    have hnode : p.setting src .nodeDirectory = p'.setting src' .nodeDirectory :=
      (h .nodeDirectory).elim id fun h => h.2.trans h.1.symm
    have hpolicy : MatchPolicy.ofSetting (p.setting src .lookupType)
        = MatchPolicy.ofSetting (p'.setting src' .lookupType) := by
      rcases h .lookupType with h | ⟨hnone, hdefault⟩
      · rw [h]
      · rw [hnone, hdefault]
        rfl
    rw [read, read, hroot, hnode, hpolicy]
  have henables : p.enables src = p'.enables src' := by
    rw [enables, enables]
    rcases h .enable with h | ⟨hnone, hdefault⟩
    · rw [h]
    · rw [hnone, hdefault]
      rfl
  have henforcement : p.enforcement src = p'.enforcement src' := by
    rw [enforcement, enforcement]
    rcases h .strategy with h | ⟨hnone, hdefault⟩
    · rw [h]
    · rw [hnone, hdefault]
      rfl
  exact ⟨hread, henables, henforcement, securityOptions_congr hread henables henforcement⟩

end Provider

/-! ## The environment over a file -/

namespace ConfigFile

open Provider (SameChoices)

variable {entries : Entries} {settings : Settings}

/-- The texts of an environment as far as they are not empty, and else those that a document
states. -/
def filledUp (environment : Settings) (entries : Entries) : Settings :=
  Setting.all.map fun s =>
    (s.variableName, (environment.value? s.variableName).or (ownText entries s))

lemma setting_filledUp (src : Sources) (environment : Settings) (entries : Entries) (s : Setting) :
    (Provider.fixed (filledUp environment entries)).setting src s
      = (environment.value? s.variableName).or (nonempty? (ownText entries s)) := by
  change Settings.value? (filledUp environment entries) s.variableName = _
  rw [filledUp, value?_map_all]
  rcases hvalue : environment.value? s.variableName with _ | text
  · rfl
  · rw [Option.some_or, Option.some_or, ← hvalue, Settings.nonempty?_value?]

lemma setting_layered (src : Sources) (settings : Settings) (s : Setting) :
    (Provider.layered [.environment, .fixed settings]).setting src s
      = (src.environment.value? s.variableName).or (settings.value? s.variableName) :=
  Provider.get_layered_pair src s.variableName .environment (.fixed settings)

/-- Settings that say what the document states are below the environment what the document is. -/
lemma Renders.layered (h : Renders settings entries) (src : Sources) :
    SameChoices src (.layered [.environment, .fixed settings])
      src (.fixed (filledUp src.environment entries)) := by
  refine Provider.sameChoices fun s => ?_
  rw [setting_layered, setting_filledUp]
  -- A text of the environment hides both the file and the defaults.
  rcases src.environment.value? s.variableName with _ | text
  · rw [Option.none_or, Option.none_or]
    rcases h s with heq | ⟨hnone, hdefault⟩
    · exact Or.inl heq
    · exact Or.inr ⟨by rw [hnone]; rfl, hdefault⟩
  · exact Or.inl rfl

/-- A document that states texts only is like an environment with these texts. -/
lemma Renders.environment (h : Renders settings entries) (src : Sources) {environment : Settings}
    (htexts : ∀ s : Setting,
      ownValue entries s = ((environment.lookup s.variableName).join).map Value.text) :
    SameChoices src (.fixed settings) { src with environment } .environment := by
  have hown : ∀ s : Setting, nonempty? (ownText entries s) = environment.value? s.variableName := by
    intro s
    rw [ownText, htexts, Settings.value?]
    rcases (environment.lookup s.variableName).join with _ | text <;> rfl
  refine Provider.sameChoices fun s => ?_
  change settings.value? s.variableName = environment.value? s.variableName ∨
    environment.value? s.variableName = none ∧ settings.value? s.variableName = _
  rw [← hown]
  rcases h s with heq | ⟨hnone, hdefault⟩
  · exact Or.inl heq
  · exact Or.inr ⟨by rw [hnone]; rfl, hdefault⟩

/-- **A file below the environment.**  If every value that the file has for a setting can be
written, the loaded configuration has settings.  Below an environment they make the same choices as the
one mapping of both, with the defaults and without them; and if the file states texts only, they make the
same choices as an environment with these texts.  If some value cannot be written, there are no
settings. -/
theorem load_filledUp {read : Reader} (hread : read.Keyed) (fs : FileSystem) {text : String}
    {config : Entries} (h : text ≠ "") (hload : (load read fs (some text)).value = .ok config) :
    ∃ entries, Outcome read fs (.ofString text) (.ok entries) ∧
      (¬ Writable entries → settingsOf config = .error .unwritable) ∧
      (Writable entries → ∃ settings bare,
        settingsOf config = .ok settings ∧ settingsOf entries = .ok bare ∧
        (∀ src, SameChoices src (.layered [.environment, .fixed settings])
          src (.fixed (filledUp src.environment entries))) ∧
        (∀ src, SameChoices src (.layered [.environment, .fixed bare])
          src (.fixed (filledUp src.environment entries))) ∧
        ∀ (src : Sources) (environment : Settings),
          (∀ s : Setting,
            ownValue entries s = ((environment.lookup s.variableName).join).map Value.text) →
          SameChoices src (.fixed settings) { src with environment } .environment) := by
  rw [load_of_ne_empty h] at hload
  rcases hstated : stated read fs (.ofString text) with fault | entries <;>
    rw [hstated] at hload <;> cases hload
  have houtcome := outcome_iff.2 hstated
  obtain ⟨⟨own, hown, htells⟩, bareOwn, hbare, hbareTells⟩ := exists_sections hread houtcome
  refine ⟨entries, houtcome, fun hunwritable => ?_, fun hwritable => ?_⟩
  · rw [settingsOf, hown]
    exact sectionSettings_eq_error htells hunwritable
  · obtain ⟨settings, hsettings, hrenders⟩ := exists_sectionSettings htells hwritable
    obtain ⟨bare, hbareSettings, hbareRenders⟩ := exists_sectionSettings hbareTells hwritable
    refine ⟨settings, bare, ?_, ?_, hrenders.layered, hbareRenders.layered,
      fun src environment htexts => hrenders.environment src htexts⟩
    · rw [settingsOf, hown]
      exact hsettings
    · rw [settingsOf, hbare]
      exact hbareSettings

/-- A working directory with a file that has values of all kinds for its settings. -/
def mixedFiles : FileSystem where
  entries :=
    [(["home"], .directory),
      (["home", "c.yml"], .file (Utf8.encode
      "security:\n  enable: true\n  lookup_type: ''\n  root_directory: 7\n  strategy: ~\n".toList))]
  workingDirectory := ["home"]

/-- The entries of the file. -/
def mixedEntries : Entries :=
  [(.text "security", .mapping
    [(.text "enable", .bool true), (.text "lookup_type", .text ""),
      (.text "root_directory", .scalar (.int 7)), (.text "strategy", .null)])]

/-- The policy comes from the environment, and the rest from the file: its flag although it
is no text, and its root although it is a number. -/
theorem load_filledUp_mixed :
    Reader.Keyed Yaml.read ∧ "c.yml" ≠ "" ∧
    (load Yaml.read mixedFiles (some "c.yml")).value = .ok (Entries.merge defaults mixedEntries) ∧
    ∃ settings, settingsOf (Entries.merge defaults mixedEntries) = .ok settings ∧
      (Provider.layered [.environment, .fixed settings]).read
          { environment := [("ROS_SECURITY_ENABLE", some ""),
            ("ROS_SECURITY_LOOKUP_TYPE", some "MATCH_PREFIX")] }
        = ⟨[], ⟨some "7", none, .beginning⟩⟩ ∧
      (Provider.layered [.environment, .fixed settings]).enables
          { environment := [("ROS_SECURITY_ENABLE", some ""),
            ("ROS_SECURITY_LOOKUP_TYPE", some "MATCH_PREFIX")] } = true := by
  have hreads : Reads Yaml.read mixedFiles (.ofString "c.yml") (.ok (.mapping mixedEntries)) :=
    ⟨_, ⟨["home", "c.yml"], by decide, rfl⟩, by decide +kernel⟩
  have houtcome : Outcome Yaml.read mixedFiles (.ofString "c.yml") (.ok mixedEntries) :=
    .usable hreads (.settings rfl)
  have hload : (load Yaml.read mixedFiles (some "c.yml")).value
      = .ok (Entries.merge defaults mixedEntries) := by
    rw [load_of_ne_empty (by decide), outcome_iff.1 houtcome]
    rfl
  -- A key that the file does not have leaves nothing to be written.
  have hwritable : Writable mixedEntries := by
    intro s v hv
    cases s <;> cases hv <;> decide +kernel
  obtain ⟨entries, hentries, -, hsettings⟩ := load_filledUp keyed_read mixedFiles (by decide) hload
  have heq : entries = mixedEntries := by
    have hboth := (outcome_iff.1 hentries).symm.trans (outcome_iff.1 houtcome)
    cases hboth
    rfl
  obtain ⟨settings, bare, hset, -, hlayered, -⟩ := hsettings (heq ▸ hwritable)
  refine ⟨keyed_read, by decide, hload, settings, hset, ?_, ?_⟩
  · rw [(hlayered _).read, heq]
    rfl
  · rw [(hlayered _).enables, heq]
    rfl

/-- The entries of a file that states a number with more than 4300 digits as the override. -/
def hugeEntries : Entries :=
  [(.text "security", .mapping [(.text "node_directory", .scalar (.int (16 ^ 3600)))])]

/-- Such a file is usable, and yet there are no settings with it, although the environment has an
override. -/
theorem settingsOf_hugeEntries :
    Usable (.mapping hugeEntries) hugeEntries ∧
      settingsOf (Entries.merge defaults hugeEntries) = .error .unwritable ∧
      (filledUp [("ROS_SECURITY_NODE_DIRECTORY", some "k")] hugeEntries).value?
        "ROS_SECURITY_NODE_DIRECTORY" = some "k" :=
  ⟨.settings rfl, by decide +kernel⟩

end ConfigFile
end Keystore
