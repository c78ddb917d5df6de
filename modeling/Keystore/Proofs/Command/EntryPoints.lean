/-
One answer at all entry points.

A secure root can be asked for in three ways: by a lookup with a configuration in hand, by a
lookup with a provider, and by the command.  Each of them makes up its own provider and its own
allocator, and shows the outcome in its own way.  What they show is told here from one lookup,
that with the settings of the environment over those of the file: `Shown` says it of the
command, and `Given` of the lookup with a provider.

The command always has a layer of defaults under the environment, with a file or without one.
The defaults ask for nothing that an environment without these settings does not ask for
(`read_layered_defaults`), so without a file the layer cannot be seen.
-/
import Mathlib.Algebra.Ring.Int.Defs
import Mathlib.Data.List.Basic
import Keystore.Proofs.ConfigFile.Effective
import Keystore.Proofs.Lookup.Malformed

namespace Keystore

/-! ## What is shown of a lookup -/

/-- What the command leaves behind when no report is asked for, given the outcome of its lookup and
the text of its log. -/
inductive Command.Shown (log : String) :
    Except LookupFault LookupResult → Except CommandFault Outcome → Prop where
  /-- The path is the whole output. -/
  | found (path : String) :
    Shown log (.ok (.found path)) (.ok { ending := .status 0, output := path ++ "\n", errors := log })
  /-- The diagnostic is the last of the error output, and there is no other output. -/
  | missed (cause : Cause) (diagnostic : String) :
    Shown log (.ok (.notFound cause diagnostic))
      (.ok { ending := .status 1, output := "", errors := log ++ (diagnostic ++ "\n") })
  /-- A malformed identity stops the command with its message. -/
  | malformed (fault : IdentityFault) :
    Shown log (.error (.identity fault))
      (.ok { ending := .stopped fault.message, output := "", errors := log })
  /-- Other faults break it off. -/
  | raised {fault : LookupFault} (h : ∀ f, fault ≠ .identity f) :
    Shown log (.error fault) (.error (.lookup fault))

/-- What a lookup with a provider answers, given the outcome of the lookup. -/
inductive Session.Given : Except LookupFault LookupResult → Answer → Prop where
  | found (path : String) : Given (.ok (.found path)) (.secureRoot (some path))
  | missed (cause : Cause) (diagnostic : String) :
    Given (.ok (.notFound cause diagnostic)) (.secureRoot none)
  | raised (fault : LookupFault) : Given (.error fault) (.failed (.ofLookup fault))

variable {read : ConfigFile.Reader} {fs : FileSystem} {src : Sources} {a : Command.Arguments}
  {p : Provider}

namespace Command

/-- The events of a run with the provider that its configuration makes. -/
def eventsOf (read : ConfigFile.Reader) (fs : FileSystem) (src : Sources) (a : Arguments)
    (p : Provider) : List Event :=
  (ConfigFile.load read fs a.config).events
    ++ (secureRoot fs src a.identity p (Allocator.allocate .untracked)).events

lemma lookup_eq (h : (configured read fs a).value = .ok p) :
    lookup read fs src a = ⟨eventsOf read fs src a p,
      (secureRoot fs src a.identity p (Allocator.allocate .untracked)).outcome.mapError .lookup⟩ := by
  simp only [lookup, h]
  rfl

/-- **What the command shows.** -/
lemma runLookup_shown (h : (configured read fs a).value = .ok p) (hjson : a.json = false) :
    Shown (logText a.verbose (eventsOf read fs src a p))
      (resolve fs a.identity (p.read src).value (Allocator.allocate .untracked)).outcome
      (runLookup read fs src a) := by
  have hsecure : (resolve fs a.identity (p.read src).value (Allocator.allocate .untracked)).outcome
      = (secureRoot fs src a.identity p (Allocator.allocate .untracked)).outcome := rfl
  rw [hsecure, runLookup, lookup_eq h]
  generalize (secureRoot fs src a.identity p (Allocator.allocate .untracked)).outcome = outcome
  rcases outcome with (fault | fault | fault) | path | ⟨cause, diagnostic⟩
  · exact .malformed fault
  · exact .raised (by simp)
  · exact .raised (by simp)
  · simp only [Except.mapError, shown, hjson, Bool.false_eq_true, if_false]
    rw [String.append_empty]
    exact .found path
  · simp only [Except.mapError, shown, hjson, Bool.false_eq_true, if_false]
    exact .missed cause diagnostic

lemma configured_value {entries : Entries}
    (h : (ConfigFile.load read fs a.config).value = .ok entries) :
    (configured read fs a).value =
      ((ConfigFile.settingsOf entries).mapError .settings).map fun settings =>
        .layered [.environment, .fixed settings] := by
  simp only [configured, h]
  rcases ConfigFile.settingsOf entries with fault | settings <;> rfl

lemma runLookup_of_unusable {fault : CommandFault} (h : (configured read fs a).value = .error fault)
    (hfault : fault.isExpected = false) : runLookup read fs src a = .error fault := by
  simp only [runLookup, lookup, h, hfault, Bool.false_eq_true, if_false]

end Command

namespace Session

/-- **What a lookup with a provider answers.** -/
lemma ask_secureRoot_given (s : Session) (i : Identity) (name : String) (p : Option Provider) :
    Given (resolve s.files i ((p.getD .environment).read s.sources).value
        (Allocator.allocate .untracked)).outcome
      (s.ask (.secureRoot i (.pool name) p)).2.value := by
  have hanswer : (s.ask (.secureRoot i (.pool name) p)).2.value
      = answerOr .ofLookup (fun result => .secureRoot result.path?)
        (resolve s.files i ((p.getD .environment).read s.sources).value
          (Allocator.allocate .untracked)).outcome := rfl
  rw [hanswer]
  generalize (resolve s.files i ((p.getD .environment).read s.sources).value
    (Allocator.allocate .untracked)).outcome = outcome
  rcases outcome with fault | path | ⟨cause, diagnostic⟩
  · exact .raised fault
  · exact .found path
  · exact .missed cause diagnostic

end Session

/-! ## The layer of defaults -/

namespace ConfigFile

/-- The settings that the defaults have. -/
def defaultSettings : Settings :=
  Setting.all.map fun s => (s.variableName, rendering (defaultValue s))

lemma settingsOf_defaults : settingsOf defaults = .ok defaultSettings := by decide +kernel

/-- **The defaults cannot be seen below the environment.** -/
lemma read_layered_defaults (src : Sources) :
    (Provider.layered [.environment, .fixed defaultSettings]).read src
      = Provider.environment.read src := by
  refine (Provider.sameChoices fun s => ?_).read
  rw [setting_layered, defaultSettings, value?_map_all]
  change _ = src.environment.value? s.variableName ∨ src.environment.value? s.variableName = none ∧ _
  rcases src.environment.value? s.variableName with _ | text
  · exact Or.inr ⟨rfl, rfl⟩
  · exact Or.inl rfl

end ConfigFile

/-! ## All entry points -/

/-- The entry points for a node, given the provider that the configuration of the command makes: all
of them show the outcome of one lookup. -/
structure OneAnswer (read : ConfigFile.Reader) (fs : FileSystem) (src : Sources)
    (a : Command.Arguments) (p : Provider) : Prop where
  command : ∀ arguments, Command.request arguments = .ok (.lookup a) → a.json = false →
    Command.Shown (Command.logText a.verbose (Command.eventsOf read fs src a p))
      (resolve fs a.identity (p.read src).value (Allocator.allocate .untracked)).outcome
      (Command.run read fs src arguments)
  provided : ∀ (s : Session) name, s.files = fs → s.sources = src →
    Session.Given (resolve fs a.identity (p.read src).value (Allocator.allocate .untracked)).outcome
      (s.ask (.secureRoot a.identity (.pool name) (some p))).2.value
  /-- Without a file, the environment alone makes the same lookup. -/
  plain : nonempty? a.config = none → ∀ (s : Session) name, s.files = fs → s.sources = src →
    Session.Given (resolve fs a.identity (p.read src).value (Allocator.allocate .untracked)).outcome
      (s.ask (.secureRoot a.identity (.pool name) none)).2.value

/-- **All entry points give one answer**, whatever the environment, the files and the identity are,
with every configuration that can be loaded.  If it has no settings, because one of them cannot be
written, there is no provider, and the command raises what its configuration raises. -/
theorem entryPoints_agree (read : ConfigFile.Reader) (fs : FileSystem) (src : Sources)
    (a : Command.Arguments) {entries : Entries}
    (hload : (ConfigFile.load read fs a.config).value = .ok entries) :
    (∀ settings, ConfigFile.settingsOf entries = .ok settings →
      OneAnswer read fs src a (.layered [.environment, .fixed settings])) ∧
    (∀ fault arguments, ConfigFile.settingsOf entries = .error fault →
      Command.request arguments = .ok (.lookup a) →
      Command.run read fs src arguments = .error (.settings fault)) ∧
    (nonempty? a.config = none → ∃ settings, ConfigFile.settingsOf entries = .ok settings) := by
  have hdefaults : nonempty? a.config = none → entries = ConfigFile.defaults := by
    intro hnone
    rw [ConfigFile.load, hnone] at hload
    cases hload
    rfl
  have hvalue := Command.configured_value hload
  refine ⟨fun settings hsettings => ?_, fun fault arguments hsettings hrequest => ?_, fun hnone => ?_⟩
  · rw [hsettings] at hvalue
    refine ⟨fun arguments hrequest hjson => ?_, ?_, ?_⟩
    · rw [Command.run, hrequest]
      exact Command.runLookup_shown hvalue hjson
    · rintro s name rfl rfl
      exact s.ask_secureRoot_given a.identity name
        (some (.layered [.environment, .fixed settings]))
    · rintro hnone s name rfl rfl
      rw [hdefaults hnone, ConfigFile.settingsOf_defaults] at hsettings
      cases hsettings
      rw [ConfigFile.read_layered_defaults]
      exact s.ask_secureRoot_given a.identity name none
  · rw [hsettings] at hvalue
    rw [Command.run, hrequest]
    exact Command.runLookup_of_unusable hvalue rfl
  · exact ⟨_, by rw [hdefaults hnone, ConfigFile.settingsOf_defaults]⟩

/-- A working directory with a keystore, and with a file that has it as the override. -/
def keystoreFiles : FileSystem where
  entries :=
    [(["home"], .directory),
      (["home", "c.yml"], .file (Utf8.encode "security:\n  node_directory: k\n".toList)),
      (["home", "k"], .directory)]
  workingDirectory := ["home"]

/-- The entries of the file. -/
def keystoreEntries : Entries :=
  [(.text "security", .mapping [(.text "node_directory", .text "k")])]

/-- The settings in the file and in the defaults. -/
def keystoreSettings : Settings :=
  [("ROS_SECURITY_ROOT_DIRECTORY", none), ("ROS_SECURITY_NODE_DIRECTORY", some "k"),
    ("ROS_SECURITY_LOOKUP_TYPE", some "MATCH_EXACT"), ("ROS_SECURITY_ENABLE", some "false"),
    ("ROS_SECURITY_STRATEGY", some "Permissive")]

/-- Arguments that name the file. -/
def keystoreArguments : Command.Arguments := { name := "talker", config := some "c.yml" }

/-- The command and a lookup with a provider both find the override of the file. -/
theorem entryPoints_agree_override :
    (ConfigFile.load Yaml.read keystoreFiles keystoreArguments.config).value
      = .ok (Entries.merge ConfigFile.defaults keystoreEntries) ∧
    Command.run Yaml.read keystoreFiles {} ["--config", "c.yml", "talker"]
      = .ok { ending := .status 0, output := "k\n", errors := "" } ∧
    ((Session.mk keystoreFiles {} [] "").ask (.secureRoot keystoreArguments.identity (.pool "keys")
      (some (.layered [.environment, .fixed keystoreSettings])))).2.value
      = .secureRoot (some "k") := by
  have hreads : ConfigFile.Reads Yaml.read keystoreFiles (.ofString "c.yml")
      (.ok (.mapping keystoreEntries)) :=
    ⟨_, ⟨["home", "c.yml"], by decide, rfl⟩, by decide +kernel⟩
  have hload : ConfigFile.load Yaml.read keystoreFiles keystoreArguments.config
      = ⟨[.configLoaded (.ofString "c.yml")],
        .ok (Entries.merge ConfigFile.defaults keystoreEntries)⟩ := by
    rw [keystoreArguments, ConfigFile.load, nonempty?_eq_some_iff.2 ⟨rfl, by decide⟩]
    simp only [ConfigFile.outcome_iff.1 (.usable hreads (.settings rfl))]
  have hsettings : ConfigFile.settingsOf (Entries.merge ConfigFile.defaults keystoreEntries)
      = .ok keystoreSettings := by
    decide +kernel
  have hvalue : (ConfigFile.load Yaml.read keystoreFiles keystoreArguments.config).value
      = .ok (Entries.merge ConfigFile.defaults keystoreEntries) := by
    rw [hload]
  have hagree :=
    (entryPoints_agree Yaml.read keystoreFiles {} keystoreArguments hvalue).1 _ hsettings
  have hrequest : Command.request ["--config", "c.yml", "talker"] = .ok (.lookup keystoreArguments) := by
    decide
  have houtcome : (resolve keystoreFiles keystoreArguments.identity
      ((Provider.layered [.environment, .fixed keystoreSettings]).read {}).value
      (Allocator.allocate .untracked)).outcome = .ok (.found "k") := by
    rfl
  -- Without `--verbose`, what was loaded and found is not told.
  have hlog : Command.logText keystoreArguments.verbose (Command.eventsOf Yaml.read keystoreFiles {}
      keystoreArguments (.layered [.environment, .fixed keystoreSettings])) = "" := by
    rw [Command.eventsOf, hload]
    decide +kernel
  have hcommand := hagree.command _ hrequest rfl
  have hprovided := hagree.provided (Session.mk keystoreFiles {} [] "") "keys" rfl rfl
  rw [houtcome] at hcommand hprovided
  rw [hlog] at hcommand
  refine ⟨hvalue, ?_, ?_⟩
  · generalize Command.run Yaml.read keystoreFiles {} ["--config", "c.yml", "talker"] = ran
      at hcommand ⊢
    cases hcommand
    rfl
  · generalize (Session.ask _ _).2.value = answer at hprovided ⊢
    cases hprovided
    rfl

end Keystore
