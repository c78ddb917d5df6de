/-
# Sessions

A session is a run of steps over shared files, settings and pools.  Some steps change them;
others ask a question and leave everything as it is, except that a lookup takes its path out of
a pool.  Every thread has an error channel of its own, which holds the last text that was put
there: by hand, or by a lookup of a secure root that found nothing.

`Session.run` gives the session after the steps and a report for each of them.
-/
import Keystore.Command.Run
import Keystore.FileSystem.Edit
import Keystore.Options
import Keystore.Yaml.Content

namespace Keystore

/-- A question that changes nothing but the counts of a pool. -/
inductive Query where
  /-- What an identity is made of. -/
  | identity (i : Identity)
  /-- The directory in which an identity is searched for. -/
  | lookupBase (root : String) (i : Identity)
  /-- Whether the name of a directory identifies a node. -/
  | nameMatches (candidate name : String) (policy : MatchPolicy)
  | matchPolicy (raw : Option String)
  | merge (base update : Entries)
  | fileSettings (config : Entries)
  /-- The settings of a provider: some of them by name, and the configuration of a lookup. -/
  | settings (p : Provider) (names : List String)
  /-- The directory below another one that best matches a node's name. -/
  | bestMatch (base name : String) (policy : MatchPolicy)
  | loadConfig (path : Option String)
  /-- A lookup, with or without a sink for its diagnostic. -/
  | resolve (i : Identity) (config : LookupConfig) (a : Allocator) (sink : Bool)
  /-- The secure root of a node; without a provider the environment has the settings. -/
  | secureRoot (i : Identity) (a : Allocator) (p : Option Provider)
  | securityOptions (i : Identity) (p : Provider) (a : Allocator)
  | command (arguments : List String)

/-- What can go wrong with a step. -/
inductive Failure where
  | path (fault : PathFault)
  | identity (fault : IdentityFault)
  | allocator (fault : AllocationFault)
  /-- A path that was not handed out is given back. -/
  | release (fault : ReleaseFault)
  /-- Security is enforced and there is no directory, for the reason given. -/
  | enforcement (diagnostic : String)
  | config (fault : ConfigFault)
  | settings (fault : ConfigFile.SettingsFault)
deriving DecidableEq, Repr

namespace Failure

/-- The failure that a lookup is raised out of with. -/
def ofLookup : LookupFault → Failure
  | .identity fault => identity fault
  | .path fault => path fault
  | .allocator fault => allocator fault

/-- The failure of security options. -/
def ofOptions : OptionsFault → Failure
  | .lookup fault => ofLookup fault
  | .enforcement diagnostic => enforcement diagnostic

/-- The failure of a command. -/
def ofCommand : Command.CommandFault → Failure
  | .config fault => config fault
  | .settings fault => settings fault
  | .lookup fault => ofLookup fault

/-- The wording of a failure. -/
def message : Failure → String
  | path fault => fault.message
  | identity fault => fault.message
  | allocator fault => fault.message
  | release fault => fault.message
  | enforcement diagnostic => (OptionsFault.enforcement diagnostic).message
  | config fault => fault.message
  | settings fault => fault.message

end Failure

/-- What a session does next. -/
inductive Step where
  /-- Puts things into the file system. -/
  | build (tree : List FileSystem.Planting)
  | remove (path : String)
  | rename (source target : String)
  | setVariable (name value : String)
  | unsetVariable (name : String)
  /-- Sets an entry of a shared mapping. -/
  | setEntry (mapping name : String) (value : Option String)
  | unsetEntry (mapping name : String)
  | setError (message : String)
  | resetError
  | getError
  | errorIsSet
  /-- Takes a path out of a pool. -/
  | allocate (pool path : String)
  /-- Gives a path back to a pool. -/
  | release (pool path : String)
  | ask (q : Query)
  /-- Takes steps in a thread of their own. -/
  | thread (steps : List Step)

mutual

/-- The answer to a step. -/
inductive Answer where
  | nothing
  | text (s : String)
  | flag (b : Bool)
  /-- What an identity is made of. -/
  | identity (inRootScope : Bool) (segments : List String) (fault : Option IdentityFault)
  | base (path : Path)
  | policy (p : MatchPolicy)
  | entries (es : Entries)
  | settings (s : Settings)
  /-- Settings in the order in which they were asked for, and the configuration of a lookup. -/
  | provided (values : List (Option String)) (config : LookupConfig)
  /-- The name of a directory, if there is one. -/
  | directory (name : Option String)
  | config (es : Entries) (s : Settings)
  /-- The result of a lookup, and what was reported to the sink. -/
  | lookup (r : LookupResult) (reported : List String)
  | secureRoot (path : Option String)
  | options (o : SecurityOptions)
  | outcome (o : Command.Outcome)
  | thread (reports : List Report)
  | failed (f : Failure)

/-- What is known after a step. -/
inductive Report where
  /-- The answer, the events, the text on the error channel of the thread, and the number of
  paths that each pool has handed out and not got back. -/
  | after (answer : Answer) (events : List Event) (lastError : String)
      (outstanding : List (String × Nat))

end

/-- What the steps of a session share, and the error channel of the thread. -/
structure Session where
  files : FileSystem
  /-- The environment and the shared mappings. -/
  sources : Sources := {}
  pools : List (String × Pool) := []
  /-- The text on the error channel. -/
  lastError : String := ""

namespace Session

/-! ## Pools -/

/-- The pool of a name; a pool that nobody has named has handed out nothing. -/
def pool (s : Session) (name : String) : Pool := (s.pools.lookup name).getD {}

/-- Sets the pool of a name. -/
def setPool (s : Session) (name : String) (p : Pool) : Session :=
  if s.pools.any (·.1 = name) then
    { s with pools := s.pools.map fun e => if e.1 = name then (name, p) else e }
  else { s with pools := s.pools ++ [(name, p)] }

/-- Counts paths in the pool of an allocator, which is known from now on. -/
def hold (s : Session) (a : Allocator) (paths : List String) : Session :=
  match a with
  | .pool name => s.setPool name (paths.foldl Pool.hold (s.pool name))
  | _ => s

/-- The number of paths that each pool has handed out and not got back. -/
def outstanding (s : Session) : List (String × Nat) :=
  s.pools.map fun e => (e.1, e.2.outstanding)

/-- Puts the last of some texts on the error channel. -/
def report (s : Session) (texts : List String) : Session :=
  match texts.getLast? with
  | some text => { s with lastError := text }
  | none => s

/-! ## Questions -/

/-- An answer, or the failure in its place. -/
def answerOr {ε α : Type} (failure : ε → Failure) (answer : α → Answer) :
    Except ε α → Answer
  | .ok a => answer a
  | .error e => .failed (failure e)

/-- The configuration at a path with its settings.  All of it is shown, so all of it has to be
writable. -/
def loadedConfig (files : FileSystem) (path : Option String) : Logged Answer :=
  let config := ConfigFile.load Yaml.read files path
  ⟨config.events, match config.value with
    | .error fault => .failed (.config fault)
    | .ok es =>
      if (Value.mapping es).isWritable then
        answerOr .settings (.config es) (ConfigFile.settingsOf es)
      else .failed (.settings .unwritable)⟩

/-- Answers a question.  A pool counts what it has granted, whatever the lookup that asked for it
answers in the end. -/
def ask (s : Session) : Query → Session × Logged Answer
  | .identity i => (s, .silent (.identity i.inRootScope i.segments i.fault?))
  | .lookupBase root i => (s, .silent (.base (i.baseUnder root)))
  | .nameMatches candidate name policy => (s, .silent (.flag (policy.accepts candidate name)))
  | .matchPolicy raw => (s, Answer.policy <$> MatchPolicy.ofSetting raw)
  | .merge base update => (s, .silent (.entries (Entries.merge base update)))
  | .fileSettings config =>
    (s, .silent (answerOr .settings .settings (ConfigFile.settingsOf config)))
  | .settings p names =>
    let config := p.read s.sources
    (s, ⟨config.events, .provided (names.map (p.get s.sources)) config.value⟩)
  | .bestMatch base name policy =>
    let found := s.files.bestMatch (.ofString base) name policy
    (s, ⟨found.events, answerOr .path .directory found.value⟩)
  | .loadConfig path => (s, loadedConfig s.files path)
  | .resolve i config a sink =>
    let r := Keystore.resolve s.files i config a.allocate
    let reported := if sink then r.reported else []
    (s.hold a (a.grants r.requests),
      ⟨r.events, answerOr .ofLookup (.lookup · reported) r.outcome⟩)
  | .secureRoot i a p =>
    let r := Keystore.secureRoot s.files s.sources i (p.getD .environment) a.allocate
    ((s.hold a (a.grants r.requests)).report r.reported,
      ⟨r.events, answerOr .ofLookup (fun result => .secureRoot result.path?) r.outcome⟩)
  | .securityOptions i p a =>
    let o := Keystore.securityOptions s.files s.sources i p a.allocate
    (s.hold a (a.grants o.requests), ⟨o.events, answerOr .ofOptions .options o.value⟩)
  | .command arguments =>
    (s, .silent (answerOr .ofCommand .outcome (Command.run Yaml.read s.files s.sources arguments)))

/-! ## Steps -/

/-- The session with other files, or with the same ones if they cannot be changed. -/
def withFiles (s : Session) : Except PathFault FileSystem → Session × Answer
  | .ok files => ({ s with files }, .nothing)
  | .error fault => (s, .failed (.path fault))

/-- The session with other sources. -/
def withSources (s : Session) (change : Sources → Sources) : Session × Answer :=
  ({ s with sources := change s.sources }, .nothing)

/-- The session with other environment variables. -/
def withVariables (s : Session) (change : Settings → Settings) : Session × Answer :=
  s.withSources fun src => { src with environment := change src.environment }

/-- The report on an answer. -/
def tell (s : Session) (answer : Answer) (events : List Event) : Report :=
  .after answer events s.lastError s.outstanding

/-- Pairs a session with the report on an answer without events. -/
def told (r : Session × Answer) : Session × Report := (r.1, r.1.tell r.2 [])

/-- Gives a path back to a pool. -/
def release (s : Session) (name path : String) : Session × Answer :=
  match (s.pool name).release path with
  | .ok p => (s.setPool name p, .nothing)
  | .error fault => (s.setPool name (s.pool name), .failed (.release fault))

mutual

/-- Takes a step. -/
def step (s : Session) (next : Step) : Session × Report :=
  match next with
  | .build tree => told (s.withFiles (s.files.build tree))
  | .remove path => told (s.withFiles (s.files.remove (.ofString path)))
  | .rename source target =>
    told (s.withFiles (s.files.rename (.ofString source) (.ofString target)))
  | .setVariable name value => told (s.withVariables (·.insert name (some value)))
  | .unsetVariable name => told (s.withVariables (·.erase name))
  | .setEntry mapping name value =>
    told (s.withSources (·.modifyMapping mapping (·.insert name value)))
  | .unsetEntry mapping name =>
    told (s.withSources (·.modifyMapping mapping (·.erase name)))
  | .setError message => told ({ s with lastError := message }, .nothing)
  | .resetError => told ({ s with lastError := "" }, .nothing)
  | .getError => told (s, .text s.lastError)
  | .errorIsSet => told (s, .flag (s.lastError ≠ ""))
  | .allocate pool path => told (s.hold (.pool pool) [path], .text path)
  | .release pool path => told (s.release pool path)
  | .ask q =>
    let r := s.ask q
    (r.1, r.1.tell r.2.value r.2.events)
  | .thread steps =>
    let r := run { s with lastError := "" } steps
    told ({ r.1 with lastError := s.lastError }, .thread r.2)

/-- Takes steps in order. -/
def run (s : Session) (steps : List Step) : Session × List Report :=
  match steps with
  | [] => (s, [])
  | next :: rest =>
    let first := step s next
    let others := run first.1 rest
    (others.1, first.2 :: others.2)

end

end Session
end Keystore
