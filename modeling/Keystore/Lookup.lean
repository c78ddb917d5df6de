/-
# Looking up the security directory of a node

A lookup ends at the override directory if one is set, and searches the root directory
otherwise: the namespace selects the base, and the node's name is matched against the
directories below it.  What can go wrong in a keystore becomes a result with a cause and a
diagnostic.  Only three things are raised instead: a malformed identity, unless an override
makes it irrelevant; a fault of the override or the base that is more than absence; and a fault
of the allocator that is not lack of room.

`Resolution` is the whole course of a lookup: its outcome, the events, what was reported to the
caller's diagnostic sink, and the paths that the allocator was asked for.
-/
import Keystore.Allocator
import Keystore.Scan
import Keystore.Setting

namespace Keystore

/-- Why a lookup has no directory to give. -/
inductive Cause where
  /-- Neither an override nor a root directory is set. -/
  | configurationMissing
  | overrideInvalid
  /-- The base is no directory, or cannot be read. -/
  | baseNotFound
  | noMatch
  /-- The allocator has no room for the path. -/
  | allocationFailure
deriving DecidableEq, Repr

/-- The word for a cause. -/
def Cause.text : Cause → String
  | configurationMissing => "configuration_missing"
  | overrideInvalid => "override_invalid"
  | baseNotFound => "base_not_found"
  | noMatch => "no_match"
  | allocationFailure => "allocation_failure"

/-- What a lookup comes back with. -/
inductive LookupResult where
  /-- The path of the directory, as the allocator handed it out. -/
  | found (path : String)
  | notFound (cause : Cause) (diagnostic : String)
deriving DecidableEq, Repr

namespace LookupResult

/-- The path, if one was found. -/
def path? : LookupResult → Option String
  | found path => some path
  | notFound .. => none

/-- The cause, if nothing was found. -/
def cause? : LookupResult → Option Cause
  | found _ => none
  | notFound cause _ => some cause

/-- The diagnostic; empty if a path was found. -/
def diagnostic : LookupResult → String
  | found _ => ""
  | notFound _ diagnostic => diagnostic

/-- Whether a path was found. -/
def isFound (r : LookupResult) : Bool := r.path?.isSome

end LookupResult

/-- What a lookup raises instead of coming back. -/
inductive LookupFault where
  | identity (fault : IdentityFault)
  /-- The override or the base cannot be looked at. -/
  | path (fault : PathFault)
  /-- The allocator failed for another reason than lack of room. -/
  | allocator (fault : AllocationFault)
deriving DecidableEq, Repr

/-- The wording of a fault. -/
def LookupFault.message : LookupFault → String
  | identity fault => fault.message
  | path fault => fault.message
  | allocator fault => fault.message

/-- The course of a lookup. -/
structure Resolution where
  outcome : Except LookupFault LookupResult
  events : List Event := []
  /-- The texts that were given to the diagnostic sink. -/
  reported : List String := []
  /-- The paths that the allocator was asked for. -/
  requests : List String := []
deriving Repr

/-! ## Diagnostics -/

namespace Diagnostic

/-- The override is no directory. -/
def overrideInvalid (override : String) : String :=
  Setting.nodeDirectory.variableName ++ " is set to '" ++ override ++
    "', which is not an existing directory"

/-- No setting says where to look. -/
def configurationMissing : String :=
  "Neither " ++ Setting.nodeDirectory.variableName ++
    " nor " ++ Setting.rootDirectory.variableName ++ " is set"

/-- The base of a namespace is no directory. -/
def baseMissing (base : Path) (scope : String) : String :=
  "Lookup directory '" ++ base.render ++ "' for namespace '" ++ scope ++ "' does not exist"

/-- The base cannot be read. -/
def baseUnreadable (base : Path) (fault : PathFault) : String :=
  "Lookup directory '" ++ base.render ++ "' could not be read: " ++ fault.message

/-- No directory below the base matches. -/
def noMatch (base : Path) (name : String) (policy : MatchPolicy) : String :=
  "No directory in '" ++ base.render ++ "' matches node name '" ++ name ++ "' (" ++ policy.text ++
    ")"

/-- The allocator has no room for the path. -/
def allocationFailure (path : String) (detail : String) : String :=
  "Failed to allocate the secure root path '" ++ path ++ "': " ++ detail

end Diagnostic

/-! ## The lookup -/

namespace Resolution

/-- A lookup that is raised out of. -/
def raised (fault : LookupFault) (events : List Event) (requests : List String) : Resolution :=
  { outcome := .error fault, events, requests }

/-- A lookup without a directory: it is noted, reported, and returned. -/
def failed (identity : Identity) (cause : Cause) (diagnostic : String) (events : List Event)
    (requests : List String) : Resolution :=
  { outcome := .ok (.notFound cause diagnostic)
    events := events ++ [.lookupFailed identity diagnostic]
    reported := [diagnostic]
    requests }

/-- A lookup whose directory is known: the allocator is asked for its path. -/
def delivered (identity : Identity) (allocate : String → Except AllocationFault String)
    (path : String) (events : List Event) : Resolution :=
  match allocate path with
  | .ok owned => { outcome := .ok (.found owned), events, requests := [path] }
  | .error (.exhausted detail) =>
    failed identity .allocationFailure (Diagnostic.allocationFailure path detail) events [path]
  | .error fault => raised (.allocator fault) events [path]

end Resolution

/-- The lookup of an identity whose override is set. -/
def resolveOverride (fs : FileSystem) (identity : Identity) (override : String)
    (allocate : String → Except AllocationFault String) : Resolution :=
  match fs.isDirectory (.ofString override) with
  | .error fault => .raised (.path fault) [] []
  | .ok false =>
    .failed identity .overrideInvalid (Diagnostic.overrideInvalid override) [] []
  | .ok true => .delivered identity allocate override [.overrideUsed override identity.name]

/-- The search of a base directory for an identity. -/
def resolveBelow (fs : FileSystem) (identity : Identity) (base : Path) (policy : MatchPolicy)
    (allocate : String → Except AllocationFault String) : Resolution :=
  match fs.isDirectory base with
  | .error fault => .raised (.path fault) [] []
  | .ok false =>
    .failed identity .baseNotFound (Diagnostic.baseMissing base identity.scope) [] []
  | .ok true =>
    let scan := fs.bestMatch base identity.name policy
    match scan.value with
    | .error fault =>
      .failed identity .baseNotFound (Diagnostic.baseUnreadable base fault) scan.events []
    | .ok none =>
      .failed identity .noMatch (Diagnostic.noMatch base identity.name policy) scan.events []
    | .ok (some name) =>
      .delivered identity allocate (base.append [name]).render scan.events

/-- The lookup of an identity: the override if there is one, the search otherwise. -/
def resolve (fs : FileSystem) (identity : Identity) (config : LookupConfig)
    (allocate : String → Except AllocationFault String) : Resolution :=
  match nonempty? config.override with
  | some override => resolveOverride fs identity override allocate
  | none =>
    match identity.fault? with
    | some fault => .raised (.identity fault) [] []
    | none =>
      match nonempty? config.rootDirectory with
      | none =>
        .failed identity .configurationMissing Diagnostic.configurationMissing [] []
      | some root => resolveBelow fs identity (identity.baseUnder root) config.policy allocate

end Keystore
