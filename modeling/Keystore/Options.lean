/-
# Security options

How a node runs.  Security is on when the setting says exactly `true`.  If it is on, the node's
directory is looked up; when there is none, an enforcing node must not run, and a permissive
one runs without security material.
-/
import Keystore.SecureRoot

namespace Keystore

/-- What happens when security is on and no directory is found. -/
inductive Enforcement where
  /-- The node runs without security material. -/
  | permissive
  /-- The node does not run. -/
  | enforce
deriving DecidableEq, Repr

/-- The word for an enforcement policy. -/
def Enforcement.text : Enforcement → String
  | permissive => "Permissive"
  | enforce => "Enforce"

/-- The enforcement that a setting asks for; only the exact word asks for enforcing. -/
def Enforcement.ofSetting (value : Option String) : Enforcement :=
  if value = some Enforcement.enforce.text then enforce else permissive

/-- How a node runs. -/
structure SecurityOptions where
  enabled : Bool
  enforcement : Enforcement
  secureRoot : Option String := none
deriving DecidableEq, Repr

/-- What is raised instead of giving options. -/
inductive OptionsFault where
  /-- The lookup was raised out of. -/
  | lookup (fault : LookupFault)
  /-- Security is enforced and there is no directory, for the reason given. -/
  | enforcement (diagnostic : String)
deriving DecidableEq, Repr

/-- The wording of a fault. -/
def OptionsFault.message : OptionsFault → String
  | lookup fault => fault.message
  | enforcement diagnostic =>
    "Security is enforced but no secure root was found: " ++ diagnostic

/-- The course of making options. -/
structure OptionsCourse extends Logged (Except OptionsFault SecurityOptions) where
  /-- The paths that the allocator was asked for. -/
  requests : List String := []
deriving Repr

/-- Options that are made without a lookup. -/
def OptionsCourse.silent (value : Except OptionsFault SecurityOptions) : OptionsCourse :=
  { events := [], value }

/-- Whether the settings of a provider turn security on. -/
def Provider.enables (src : Sources) (p : Provider) : Bool :=
  p.setting src .enable = some "true"

/-- The enforcement that the settings of a provider ask for. -/
def Provider.enforcement (src : Sources) (p : Provider) : Enforcement :=
  .ofSetting (p.setting src .strategy)

/-- How a node runs, given where its settings come from. -/
def securityOptions (fs : FileSystem) (src : Sources) (identity : Identity) (p : Provider)
    (allocate : String → Except AllocationFault String) : OptionsCourse :=
  let enforcement := p.enforcement src
  if p.enables src then
    let lookup := secureRoot fs src identity p allocate
    let events := lookup.events
    let requests := lookup.requests
    match lookup.outcome with
    | .error fault => { events, value := .error (.lookup fault), requests }
    | .ok (.found path) => { events, value := .ok ⟨true, enforcement, some path⟩, requests }
    | .ok (.notFound _ diagnostic) =>
      match enforcement with
      | .enforce => { events, value := .error (.enforcement diagnostic), requests }
      | .permissive =>
        { events := events ++ [.runningUnsecured identity diagnostic]
          value := .ok ⟨true, enforcement, none⟩
          requests }
  else .silent (.ok ⟨false, enforcement, none⟩)

end Keystore
