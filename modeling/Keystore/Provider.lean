/-
# Providers

A provider answers what the current text of a setting is.  Nothing is remembered between
questions: the environment and the shared mappings are consulted as they stand.  Layers are
asked in order, and the first one with a text that is not empty has the answer.
-/
import Keystore.Setting

namespace Keystore

/-- What providers draw on: the environment, and mappings that others may change. -/
structure Sources where
  environment : Settings := []
  mappings : List (String × Settings) := []
deriving DecidableEq, Repr

/-- A source of settings. -/
inductive Provider where
  /-- Settings of its own. -/
  | fixed (settings : Settings)
  | environment
  /-- The shared mapping of the given name. -/
  | shared (name : String)
  /-- Several providers, from the highest precedence to the lowest. -/
  | layered (layers : List Provider)
deriving Repr

namespace Sources

/-- The shared mapping of a name; a mapping nobody has made is empty. -/
def mapping (s : Sources) (name : String) : Settings := (s.mappings.lookup name).getD []

/-- Changes the shared mapping of a name. -/
def modifyMapping (s : Sources) (name : String) (change : Settings → Settings) : Sources :=
  { s with mappings := (name, change (s.mapping name)) :: s.mappings.filter (·.1 ≠ name) }

end Sources

namespace Provider

mutual

/-- The text of a setting as of now, by the name of its variable; never empty. -/
def get (src : Sources) (p : Provider) (name : String) : Option String :=
  match p with
  | fixed settings => settings.value? name
  | environment => src.environment.value? name
  | shared mapping => (src.mapping mapping).value? name
  | layered layers => getFirst src layers name

/-- The first text that one of the layers has for a setting. -/
def getFirst (src : Sources) (layers : List Provider) (name : String) : Option String :=
  match layers with
  | [] => none
  | layer :: rest =>
    match nonempty? (get src layer name) with
    | some value => some value
    | none => getFirst src rest name

end

/-- The text of one of the known settings. -/
def setting (src : Sources) (p : Provider) (s : Setting) : Option String := p.get src s.variableName

/-- The configuration of a lookup as of now. -/
def read (src : Sources) (p : Provider) : Logged LookupConfig :=
  let policy := MatchPolicy.ofSetting (p.setting src .lookupType)
  ⟨policy.events,
    { rootDirectory := nonempty? (p.setting src .rootDirectory)
      override := nonempty? (p.setting src .nodeDirectory)
      policy := policy.value }⟩

end Provider
end Keystore
