/-
# Settings

A setting is a named text that may be unset.  An empty text counts as unset everywhere.  The
names are those of the environment variables that the settings can be made with.
-/
import Keystore.Policy

namespace Keystore

/-- The settings that a lookup reads. -/
inductive Setting where
  /-- The directory under which all security directories lie. -/
  | rootDirectory
  /-- The directory to use whatever the identity. -/
  | nodeDirectory
  | lookupType
  | enable
  /-- What happens when security is on and nothing is found. -/
  | strategy
deriving DecidableEq, Repr

namespace Setting

/-- All settings, in the order in which they are listed. -/
def all : List Setting := [rootDirectory, nodeDirectory, lookupType, enable, strategy]

/-- The name of the environment variable for a setting. -/
def variableName : Setting → String
  | rootDirectory => "ROS_SECURITY_ROOT_DIRECTORY"
  | nodeDirectory => "ROS_SECURITY_NODE_DIRECTORY"
  | lookupType => "ROS_SECURITY_LOOKUP_TYPE"
  | enable => "ROS_SECURITY_ENABLE"
  | strategy => "ROS_SECURITY_STRATEGY"

/-- The key of a setting in a configuration file. -/
def key : Setting → String
  | rootDirectory => "root_directory"
  | nodeDirectory => "node_directory"
  | lookupType => "lookup_type"
  | enable => "enable"
  | strategy => "strategy"

end Setting

/-- The text itself, unless it is empty. -/
def nonempty? (value : Option String) : Option String := value.filter (· ≠ "")

/-- Texts under names; a name may be listed without a text. -/
abbrev Settings := List (String × Option String)

namespace Settings

/-- The text under a name, if there is one and it is not empty. -/
def value? (s : Settings) (name : String) : Option String := nonempty? (s.lookup name).join

/-- The settings with another text under a name. -/
def insert (s : Settings) (name : String) (value : Option String) : Settings :=
  (name, value) :: s.filter (·.1 ≠ name)

/-- The settings without a name. -/
def erase (s : Settings) (name : String) : Settings := s.filter (·.1 ≠ name)

end Settings

/-- What a lookup needs to know besides the identity. -/
structure LookupConfig where
  rootDirectory : Option String := none
  /-- The directory to use instead of a search. -/
  override : Option String := none
  policy : MatchPolicy := .whole
deriving DecidableEq, Repr

end Keystore
