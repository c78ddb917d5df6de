/-
# Configuration files

A configuration file is a YAML document with one mapping.  Its section `security` holds the
settings, under their keys.  The file is laid over the defaults, so a loaded configuration has all
settings, unless the file has the section without a value; what else the file says is kept.  What
makes a document of a text is given from outside (`ConfigFile.Reader`).
-/
import Keystore.FileSystem.Walk
import Keystore.Setting
import Keystore.Text.Utf8
import Keystore.Value
import Keystore.Yaml.Fault

namespace Keystore

/-- Why a configuration file cannot be used. -/
inductive ConfigFault where
  | missing (path : Path)
  | unreadable (fault : PathFault)
  /-- The bytes of the file are no text. -/
  | notText (fault : Utf8.Fault)
  /-- The text of the file is no document. -/
  | malformed (path : Path) (fault : Yaml.Fault)
  /-- A scalar of the document has no value. -/
  | valueless (fault : Yaml.ValueFault)
  | notMapping (path : Path)
  | sectionNotMapping (path : Path)
deriving DecidableEq, Repr

/-- The wording of a fault. -/
def ConfigFault.message : ConfigFault → String
  | missing path => "Config file not found: " ++ path.render
  | unreadable fault => fault.message
  | notText fault => fault.message
  | malformed path fault =>
    "Config file " ++ path.render ++ " is not valid YAML: " ++ fault.message
  | valueless fault => fault.message
  | notMapping path => "Config file " ++ path.render ++ " must contain a mapping"
  | sectionNotMapping path =>
    "Config file " ++ path.render ++ ": 'security' must be a mapping"

namespace ConfigFile

/-- The key of the section that holds the settings. -/
def sectionKey : String := "security"

/-- The value that a setting has if a file does not say otherwise. -/
def defaultValue : Setting → Value
  | .rootDirectory => .null
  | .nodeDirectory => .null
  | .lookupType => .text MatchPolicy.whole.text
  | .enable => .bool false
  | .strategy => .text "Permissive"

/-- The configuration without a file. -/
def defaults : Entries :=
  [(.text sectionKey, .mapping (Setting.all.map fun s => (.text s.key, defaultValue s)))]

/-! ## Settings -/

/-- Why a configuration has no settings that can be used. -/
inductive SettingsFault where
  /-- In place of the section with the settings stands a value of another kind. -/
  | noSection (kind : String)
  /-- A value holds an integer that cannot be written. -/
  | unwritable
deriving DecidableEq, Repr

/-- The wording of a fault. -/
def SettingsFault.message : SettingsFault → String
  | noSection kind => "'" ++ kind ++ "' object has no attribute 'get'"
  | unwritable => Numeral.limitMessage none

/-- The text of a setting with the given value; no value is no text. -/
def settingText : Value → Except SettingsFault (Option String)
  | .scalar .null => .ok none
  | .scalar (.bool b) => .ok (some (if b then "true" else "false"))
  | v => if v.isWritable then .ok (some v.plain) else .error .unwritable

/-- The section with the settings; what counts as nothing is an empty section. -/
def sectionOf (config : Entries) : Except SettingsFault Entries :=
  match Entries.get? config sectionKey with
  | none => .ok []
  | some (.mapping entries) => .ok entries
  | some v => if v.isSomething then .error (.noSection v.kind) else .ok []

/-- The text of a setting in a section. -/
def textIn (entries : Entries) (s : Setting) : Except SettingsFault (Option String) :=
  match Entries.get? entries s.key with
  | none => .ok none
  | some v => settingText v

/-- The texts of all settings of a section, under the names of their variables. -/
def sectionSettings (entries : Entries) : Except SettingsFault Settings :=
  Setting.all.mapM fun s => (textIn entries s).map (s.variableName, ·)

/-- The texts of all settings of a configuration. -/
def settingsOf (config : Entries) : Except SettingsFault Settings :=
  (sectionOf config).bind sectionSettings

/-! ## Loading -/

/-- Reads documents.  A text has a value, or it is no document, or a scalar in it has no value. -/
abbrev Reader := List Char → Except Yaml.Fault Value

/-- The value of the document in the bytes of a file. -/
def document (read : Reader) (path : Path) (bytes : List UInt8) : Except ConfigFault Value :=
  match Utf8.decode bytes with
  | .error fault => .error (.notText fault)
  | .ok text =>
    match read (Utf8.unifyLineEnds text) with
    | .ok value => .ok value
    | .error (.value fault) => .error (.valueless fault)
    | .error fault => .error (.malformed path fault)

/-- The entries of a document that is a mapping with a section for the settings, or without
one; a document that counts as nothing has no entries. -/
def entriesOf (path : Path) (value : Value) : Except ConfigFault Entries :=
  if !value.isSomething then .ok []
  else match value with
    | .mapping entries =>
      match Entries.get? entries sectionKey with
      | none => .ok entries
      | some (.scalar .null) => .ok entries
      | some (.mapping _) => .ok entries
      | some _ => .error (.sectionNotMapping path)
    | _ => .error (.notMapping path)

/-- The entries that the file at a path states. -/
def stated (read : Reader) (fs : FileSystem) (path : Path) : Except ConfigFault Entries :=
  match fs.isPresent path with
  | .error fault => .error (.unreadable fault)
  | .ok false => .error (.missing path)
  | .ok true =>
    match fs.content path with
    | .error fault => .error (.unreadable fault)
    | .ok bytes =>
      match document read path bytes with
      | .error fault => .error fault
      | .ok value => entriesOf path value

/-- The configuration with the file at a path laid over the defaults.  Without a path, or with
an empty one, it is the defaults alone. -/
def load (read : Reader) (fs : FileSystem) (path : Option String) :
    Logged (Except ConfigFault Entries) :=
  match nonempty? path with
  | none => .silent (.ok defaults)
  | some text =>
    match stated read fs (.ofString text) with
    | .error fault => .silent (.error fault)
    | .ok entries => ⟨[.configLoaded (.ofString text)], .ok (Entries.merge defaults entries)⟩

end ConfigFile
end Keystore
