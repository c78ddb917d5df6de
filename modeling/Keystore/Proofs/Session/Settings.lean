/-
Settings during a session.

Four kinds of steps write to what providers draw on: an environment variable is set or unset, and
so is an entry of a shared mapping.  Each of them makes one `Write`, which changes what is listed
under one name in one leaf (`Write.lookup_apply`).  So at every point of a session, what a leaf
lists is what was written last, by whichever thread, or else what it has listed in the beginning
(`traced_lookup`).  Providers remember nothing, so this is what they answer from.

A step that writes nothing, or only lists in another way that something is unset, changes no
answer (`Step.Idle.respelled`).
-/
import Mathlib.Data.List.Basic
import Keystore.Proofs.Provider.Flat
import Keystore.Proofs.Session.Accounts

namespace Keystore

/-! ## Writes -/

/-- A change of what is listed under a name: a text, no text, or nothing at all. -/
inductive Write where
  /-- In the environment. -/
  | toEnvironment (name : String) (entry : Option (Option String))
  /-- In a shared mapping. -/
  | toMapping (mapping name : String) (entry : Option (Option String))

/-- The write that a step makes. -/
def Step.write? : Step → Option Write
  | .setVariable name value => some (.toEnvironment name (some (some value)))
  | .unsetVariable name => some (.toEnvironment name none)
  | .setEntry mapping name value => some (.toMapping mapping name (some value))
  | .unsetEntry mapping name => some (.toMapping mapping name none)
  | _ => none

/-- The settings with something else listed under a name. -/
def Settings.put (s : Settings) (name : String) : Option (Option String) → Settings
  | some value => s.insert name value
  | none => s.erase name

lemma Settings.lookup_put (s : Settings) (name other : String) (entry : Option (Option String)) :
    (s.put name entry).lookup other = if other = name then entry else s.lookup other := by
  cases entry with
  | none => exact s.lookup_erase name other
  | some value => exact s.lookup_insert name other value

namespace Write

/-- The leaf and the name that are written to. -/
def key : Write → Provider.Leaf × String
  | toEnvironment name _ => (.environment, name)
  | toMapping mapping name _ => (.shared mapping, name)

/-- What is listed there afterwards. -/
def entry : Write → Option (Option String)
  | toEnvironment _ entry => entry
  | toMapping _ _ entry => entry

/-- What a write makes of the sources. -/
def apply (src : Sources) : Write → Sources
  | toEnvironment name entry => { src with environment := src.environment.put name entry }
  | toMapping mapping name entry => src.modifyMapping mapping (·.put name entry)

/-- **A write is listed where it was made**, and everything else is listed as before. -/
lemma lookup_apply (w : Write) (src : Sources) (leaf : Provider.Leaf) (name : String) :
    (leaf.contents (w.apply src)).lookup name
      = if (leaf, name) = w.key then w.entry else (leaf.contents src).lookup name := by
  cases w with
  | toEnvironment own entry =>
    cases leaf with
    | environment =>
      have hlookup := src.environment.lookup_put own name entry
      simpa [key, apply, Write.entry, Provider.Leaf.contents] using hlookup
    | _ => simp [key, apply, Provider.Leaf.contents, Sources.mapping]
  | toMapping there own entry =>
    cases leaf with
    | shared mapping =>
      have hlookup := (src.mapping mapping).lookup_put own name entry
      rw [apply, Provider.Leaf.contents, Sources.mapping_modifyMapping]
      by_cases hmapping : mapping = there
      · rw [if_pos hmapping, hlookup]
        simp [key, hmapping, Write.entry, Provider.Leaf.contents]
      · rw [if_neg hmapping]
        simp [key, hmapping, Provider.Leaf.contents]
    | _ => simp [key, apply, Provider.Leaf.contents, Sources.modifyMapping]

end Write

/-- What the step writes is unset, and was so before. -/
def Step.Idle (next : Step) (src : Sources) : Prop :=
  ∀ w, next.write? = some w → IsUnset w.entry ∧ (w.key.1.contents src).Unset w.key.2

/-- What a step makes of the sources, if it is no thread. -/
def Step.change (next : Step) (src : Sources) : Sources := next.write?.elim src (Write.apply src)

lemma Step.Idle.respelled {next : Step} {src : Sources} (h : next.Idle src)
    (leaf : Provider.Leaf) : (leaf.contents src).Respelled (leaf.contents (next.change src)) := by
  intro name
  rw [Step.change]
  rcases hwrite : next.write? with _ | w
  · exact Or.inl rfl
  · have hlookup := w.lookup_apply src leaf name
    obtain ⟨hentry, hbefore⟩ := h w hwrite
    split at hlookup
    · next hkey =>
      rw [← hkey] at hbefore
      refine Or.inr ⟨hbefore, ?_⟩
      rw [Settings.Unset, Option.elim_some, hlookup]
      exact hentry
    · exact Or.inl hlookup.symm

namespace Session

open Provider (Leaf)

/-! ## Steps -/

/-- A step that is no thread changes the sources by its write only. -/
lemma sources_step {next : Step} (h : ∀ steps, next ≠ .thread steps) (s : Session) :
    (s.step next).1.sources = next.change s.sources := by
  cases next with
  | thread steps => exact absurd rfl (h steps)
  | build tree =>
    simp only [step, told, (s.withFiles_frame _).1]
    rfl
  | remove path =>
    simp only [step, told, (s.withFiles_frame _).1]
    rfl
  | rename source target =>
    simp only [step, told, (s.withFiles_frame _).1]
    rfl
  | allocate pool path =>
    rw [step, told]
    exact (s.hold_frame (.pool pool) [path]).2.1
  | release pool path =>
    rw [step, told]
    exact (s.release_frame pool path).2.1
  | ask q =>
    rw [step_ask]
    exact (s.ask_frame q).2
  | _ => rfl

/-- The last write to the leaf under the name in some turns. -/
def lastWrite? (leaf : Leaf) (name : String) (past : List Turn) : Option Write :=
  ((past.filterMap fun t => t.step.write?).filter fun w => (leaf, name) = w.key).getLast?

lemma lastWrite?_append (leaf : Leaf) (name : String) (past more : List Turn) :
    lastWrite? leaf name (past ++ more)
      = (lastWrite? leaf name more).or (lastWrite? leaf name past) := by
  rw [lastWrite?, List.filterMap_append, List.filter_append, List.getLast?_append]
  rfl

lemma lookup_turn {next : Step} (h : ∀ steps, next ≠ .thread steps) (s : Session) (leaf : Leaf)
    (name : String) :
    (leaf.contents (s.step next).1.sources).lookup name
      = (lastWrite? leaf name [⟨s, next⟩]).elim ((leaf.contents s.sources).lookup name)
          Write.entry := by
  rw [sources_step h, Step.change, lastWrite?, List.filterMap_cons]
  rcases next.write? with _ | w
  · rfl
  · simp only [Option.elim_some, w.lookup_apply]
    by_cases hkey : (leaf, name) = w.key <;> simp [hkey]

/-- **A leaf lists what was written last**, or else what it has listed before. -/
lemma traced_lookup : Traced fun s past t => ∀ leaf name,
    (leaf.contents t.sources).lookup name
      = (lastWrite? leaf name past).elim ((leaf.contents s.sources).lookup name) Write.entry := by
  refine ⟨fun s leaf name => rfl, fun s next hnext leaf name => lookup_turn hnext s leaf name, ?_,
    fun text h => h, fun text h => h⟩
  intro s t u past more hpast hmore leaf name
  rw [hmore leaf name, hpast leaf name, lastWrite?_append]
  rcases lastWrite? leaf name more with _ | w <;> rfl

/-! ## What a caller may rely on -/

/-- A provider in the session `now`, where `past` has happened since the session `s`. -/
structure LiveSettings (s now : Session) (past : List Turn) (p : Provider) : Prop where
  /-- A leaf lists what was written last, or else what it has listed in the beginning. -/
  current : ∀ (leaf : Leaf) name, (leaf.contents now.sources).lookup name
    = (lastWrite? leaf name past).elim ((leaf.contents s.sources).lookup name) Write.entry
  /-- Whoever asks is told what the provider answers now. -/
  asked : ∀ names, (now.ask (.settings p names)).2 = ⟨(p.read now.sources).events,
    .provided (names.map (p.get now.sources)) (p.read now.sources).value⟩
  /-- An answer is the first text of the leaves. -/
  some_iff : ∀ name text, p.get now.sources name = some text ↔
    IsFirst (p.contents now.sources) name text
  /-- There is no answer exactly if the name is unset everywhere. -/
  none_iff : ∀ name, p.get now.sources name = none ↔
    ∀ settings ∈ p.contents now.sources, settings.Unset name
  /-- No answer is an empty text. -/
  ne_empty : ∀ name, p.get now.sources name ≠ some ""
  /-- Whatever has the same leaves answers the same. -/
  leaves : ∀ p' : Provider, p.leaves = p'.leaves →
    Provider.SameAnswers now.sources p now.sources p'
  /-- This is so if layers are grouped, or if a group without layers is put among them. -/
  grouped : ∀ left inner right, p = .layered (left ++ (inner ++ right)) →
    Provider.SameAnswers now.sources p now.sources (.layered (left ++ .layered inner :: right))
  /-- So does whatever draws on rearranged settings. -/
  rearranged : ∀ (p' : Provider) (src' : Sources),
    Rearranged (p.contents now.sources) (p'.contents src') →
    Provider.SameAnswers now.sources p src' p'
  /-- A step that only spells in another way that something is unset changes no answer. -/
  idle : ∀ next : Step, (∀ steps, next ≠ .thread steps) → next.Idle now.sources →
    Provider.SameAnswers now.sources p (now.step next).1.sources p
  /-- What is read is told by the answers. -/
  read : p.Reads now.sources (p.read now.sources)
  /-- A word that is not known hides the policies of all lower layers. -/
  shadowed : ∀ (lower : List Provider) word,
    p.get now.sources "ROS_SECURITY_LOOKUP_TYPE" = some word →
    word ≠ "MATCH_EXACT" → word ≠ "MATCH_PREFIX" →
    ((Provider.layered (p :: lower)).read now.sources).value.policy = .whole ∧
      ((Provider.layered (p :: lower)).read now.sources).events = [.unrecognizedPolicy word]

/-- **Providers are read live**, at every point of a session and in threads within threads, and
their layers come down to a list of leaves. -/
theorem settings_live {s : Session} {steps : List Step} {start : Session} {done : List Step}
    {past : List Turn} (h : Point s steps start done past) (p : Provider) :
    LiveSettings s (start.run done).1 past p := by
  refine ⟨traced_lookup.point h, fun names => rfl,
    fun name text => Provider.get_eq_some_iff, fun name => Provider.get_eq_none_iff,
    fun name => Provider.get_ne_empty _ p name,
    fun p' hleaves => Provider.sameAnswers_of_leaves hleaves, fun left inner right hp => ?_,
    fun p' src' hrearranged => Provider.sameAnswers_of_rearranged hrearranged,
    fun next hnext hidle => ?_, Provider.reads _ p, fun lower word hword hwhole hbeginning => ?_⟩
  · rw [hp]
    exact Provider.sameAnswers_of_leaves (Provider.leaves_group left inner right).symm
  · refine Provider.sameAnswers_of_rearranged (Provider.rearranged_contents (fun leaf => ?_) p)
    rw [sources_step hnext]
    exact hidle.respelled leaf
  · have hget : (Provider.layered (p :: lower)).get (start.run done).1.sources
        "ROS_SECURITY_LOOKUP_TYPE" = some word := by
      rw [Provider.get, Provider.getFirst_cons, Provider.nonempty?_get, hword, Option.some_or]
    obtain ⟨hpolicy, hevents, -⟩ :=
      (Provider.reads _ (.layered (p :: lower))).unrecognized word hget hwhole hbeginning
    exact ⟨hpolicy, hevents⟩

/-- Nested layers: an empty one, the environment, and a shared mapping with settings below it. -/
def sampleLayers : Provider :=
  .layered [.layered [], .environment, .layered [.shared "m",
    .fixed [("ROS_SECURITY_LOOKUP_TYPE", some "MATCH_PREFIX"),
      ("ROS_SECURITY_ROOT_DIRECTORY", some "k")]]]

/-- An empty root in the environment, and a policy in the shared mapping. -/
def sampleWrites : List Step :=
  [.setVariable "ROS_SECURITY_ROOT_DIRECTORY" "",
    .setEntry "m" "ROS_SECURITY_LOOKUP_TYPE" (some "MATCH_PREFIX")]

/-- Another word in place of the policy. -/
def sampleRewrite : Step := .setEntry "m" "ROS_SECURITY_LOOKUP_TYPE" (some "prefix")

/-- The session of a thread that has written this word. -/
def sampleRewritten : Session := ((sampleSession.run sampleWrites).1.fresh.run [sampleRewrite]).1

/-- The word is not known.  It is reported, although there is a policy below it, and the root comes
from below the empty one. -/
theorem settings_live_within :
    sampleLayers.get sampleRewritten.sources "ROS_SECURITY_ROOT_DIRECTORY" = some "k" ∧
      (sampleLayers.read sampleRewritten.sources).value.policy = .whole ∧
      (sampleLayers.read sampleRewritten.sources).events = [.unrecognizedPolicy "prefix"] := by
  have hpoint : Point sampleSession (sampleWrites ++ .thread ([sampleRewrite] ++ []) :: [])
      (sampleSession.run sampleWrites).1.fresh [sampleRewrite] _ :=
    .within _ _ _ (.between _ _ _)
  have hlive := settings_live hpoint sampleLayers
  change LiveSettings sampleSession sampleRewritten _ _ at hlive
  generalize sampleRewritten = now at hlive ⊢
  have hcontents : sampleLayers.contents now.sources = [now.sources.environment,
      now.sources.mapping "m", [("ROS_SECURITY_LOOKUP_TYPE", some "MATCH_PREFIX"),
        ("ROS_SECURITY_ROOT_DIRECTORY", some "k")]] := rfl
  -- The environment lists an empty root and no lookup type, the mapping no root.
  have henvironment := fun name => hlive.current .environment name
  have hmapping := fun name => hlive.current (.shared "m") name
  have hroot : sampleLayers.get now.sources "ROS_SECURITY_ROOT_DIRECTORY" = some "k" := by
    refine (hlive.some_iff _ _).2 ⟨[now.sources.environment, now.sources.mapping "m"], _, _,
      hcontents, ?_, by decide, by decide⟩
    refine List.forall_mem_cons.2 ⟨Or.inr (Or.inr ?_), List.forall_mem_singleton.2 (Or.inl ?_)⟩
    · exact (henvironment _).trans (by decide)
    · exact (hmapping _).trans (by decide)
  have hword : sampleLayers.get now.sources "ROS_SECURITY_LOOKUP_TYPE" = some "prefix" := by
    refine (hlive.some_iff _ _).2 ⟨[now.sources.environment], _, _, hcontents, ?_, ?_, by decide⟩
    · exact List.forall_mem_singleton.2 (Or.inl ((henvironment _).trans (by decide)))
    · exact (hmapping _).trans (by decide)
  obtain ⟨hpolicy, hevents, -⟩ := hlive.read.unrecognized "prefix" hword (by decide) (by decide)
  exact ⟨hroot, hpolicy, hevents⟩

end Session
end Keystore
