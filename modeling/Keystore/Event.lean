/-
# Events

What a lookup has to say about its course.  An event is a value; its severity, the part of the
library that speaks, and its wording are functions of it.  `Logged` pairs a result with the
events that led to it, in order.
-/
import Keystore.Identity

namespace Keystore

/-- How much an event matters. -/
inductive Severity where
  | debug
  | info
  | warning
deriving DecidableEq, Repr

/-- The word for a severity. -/
def Severity.text : Severity → String
  | debug => "DEBUG"
  | info => "INFO"
  | warning => "WARNING"

/-- Something that happened on the way to a result. -/
inductive Event where
  /-- A setting names no match policy; the exact one is used. -/
  | unrecognizedPolicy (raw : String)
  /-- More than one directory matches a node name; the first of the list is taken. -/
  | severalDirectories (base : Path) (name : String) (matched : List String)
  | lookupFailed (identity : Identity) (diagnostic : String)
  | overrideUsed (override : String) (name : String)
  | configLoaded (path : Path)
  /-- A node runs without security material although security is on. -/
  | runningUnsecured (identity : Identity) (diagnostic : String)
deriving DecidableEq, Repr

namespace Event

/-- How much the event matters. -/
def severity : Event → Severity
  | unrecognizedPolicy .. => .warning
  | severalDirectories .. => .debug
  | lookupFailed .. => .debug
  | overrideUsed .. => .info
  | configLoaded .. => .debug
  | runningUnsecured .. => .warning

/-- The name under which the speaking part is known to readers of a log. -/
def channel : Event → String
  | unrecognizedPolicy .. => "secure_root.match_policy"
  | severalDirectories .. => "secure_root.find_matching_directory"
  | lookupFailed .. => "secure_root.resolve_secure_root"
  | overrideUsed .. => "secure_root.resolve_secure_root"
  | configLoaded .. => "secure_root.load_config"
  | runningUnsecured .. => "secure_root.security_options"

/-- The wording of the event. -/
def message : Event → String
  | unrecognizedPolicy raw =>
    "Unrecognized lookup type " ++ Quoted.text raw ++ ", using MATCH_EXACT"
  | severalDirectories base name matched =>
    "Several directories in " ++ base.render ++ " match " ++ Quoted.text name ++ ": " ++
      Quoted.list matched
  | lookupFailed i diagnostic =>
    "No secure root for " ++ i.name ++ " in " ++ i.scope ++ ": " ++ diagnostic
  | overrideUsed override name => "Using node directory override " ++ override ++ " for " ++ name
  | configLoaded path => "Loaded config file " ++ path.render
  | runningUnsecured i diagnostic =>
    "Security is enabled but " ++ i.name ++ " in " ++ i.scope ++
      " has no secure root, running without it: " ++ diagnostic

/-- The line of a full log. -/
def line (e : Event) : String :=
  e.severity.text ++ " " ++ e.channel ++ ": " ++ e.message

end Event

/-- A result with the events that led to it. -/
structure Logged (α : Type) where
  /-- The events, in the order in which they happened. -/
  events : List Event
  value : α
deriving Repr

namespace Logged

/-- A result without events. -/
def silent {α : Type} (value : α) : Logged α := ⟨[], value⟩

instance : Monad Logged where
  pure := silent
  bind x f := ⟨x.events ++ (f x.value).events, (f x.value).value⟩
  map f x := ⟨x.events, f x.value⟩

/-- One event, and nothing to return. -/
def note (e : Event) : Logged Unit := ⟨[e], ()⟩

@[simp] theorem events_silent {α : Type} (a : α) : (silent a).events = [] := rfl

@[simp] theorem value_silent {α : Type} (a : α) : (silent a).value = a := rfl

end Logged
end Keystore
