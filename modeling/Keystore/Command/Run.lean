/-
# Running the command

The command looks an identity up, with the settings of the environment over those of the
configuration file.  A path that is found goes to the output, a diagnostic to the error output;
the full report goes to the output in both cases.  Warnings go to the error output as they are,
and with a log everything does, with its severity and the part that speaks.
-/
import Keystore.Command.Report
import Keystore.Command.Usage
import Keystore.ConfigFile
import Keystore.SecureRoot

namespace Keystore
namespace Command

/-- How the command ends. -/
inductive Ending where
  | status (n : Nat)
  /-- With a message, which is the last thing on the error output, and a status for failure. -/
  | stopped (message : String)
deriving DecidableEq, Repr

/-- What the command leaves behind. -/
structure Outcome where
  ending : Ending
  output : String := ""
  errors : String := ""
deriving DecidableEq, Repr

/-- What breaks the command off. -/
inductive CommandFault where
  | config (fault : ConfigFault)
  | settings (fault : ConfigFile.SettingsFault)
  | lookup (fault : LookupFault)
deriving DecidableEq, Repr

namespace CommandFault

/-- The wording of a fault. -/
def message : CommandFault → String
  | config fault => fault.message
  | settings fault => fault.message
  | lookup fault => fault.message

/-- Whether the fault is one that users of the command have to reckon with: then it ends the
command with a message. -/
def isExpected : CommandFault → Bool
  | config (.missing _) => true
  | config (.malformed ..) => true
  | config (.notMapping _) => true
  | config (.sectionNotMapping _) => true
  | config _ => false
  | settings _ => false
  | lookup (.identity _) => true
  | lookup _ => false

end CommandFault

/-- The settings of the environment over those of the configuration file. -/
def configured (read : ConfigFile.Reader) (fs : FileSystem) (a : Arguments) :
    Logged (Except CommandFault Provider) :=
  let config := ConfigFile.load read fs a.config
  ⟨config.events, match config.value with
    | .error fault => .error (.config fault)
    | .ok entries =>
      match ConfigFile.settingsOf entries with
      | .error fault => .error (.settings fault)
      | .ok fileSettings => .ok (.layered [.environment, .fixed fileSettings])⟩

/-- The identity that arguments name. -/
def Arguments.identity (a : Arguments) : Identity := ⟨a.name, a.scope⟩

/-- The lookup that arguments ask for. -/
def lookup (read : ConfigFile.Reader) (fs : FileSystem) (src : Sources) (a : Arguments) :
    Logged (Except CommandFault LookupResult) :=
  let p := configured read fs a
  match p.value with
  | .error fault => ⟨p.events, .error fault⟩
  | .ok provider =>
    let r := secureRoot fs src a.identity provider (Allocator.allocate .untracked)
    ⟨p.events ++ r.events, r.outcome.mapError .lookup⟩

/-- What the events of a run put on the error output. -/
def logText (verbose : Bool) (events : List Event) : String :=
  let lines :=
    if verbose then events.map Event.line
    else (events.filter (·.severity = .warning)).map Event.message
  String.join (lines.map (· ++ "\n"))

/-- What a result puts on the output and on the error output. -/
def shown (a : Arguments) (r : LookupResult) : String × String :=
  if a.json then (report a.identity r ++ "\n", "")
  else match r with
    | .found path => (path ++ "\n", "")
    | .notFound _ diagnostic => ("", diagnostic ++ "\n")

/-- Runs the lookup that arguments ask for. -/
def runLookup (read : ConfigFile.Reader) (fs : FileSystem) (src : Sources) (a : Arguments) :
    Except CommandFault Outcome :=
  let result := lookup read fs src a
  let log := logText a.verbose result.events
  match result.value with
  | .error fault =>
    if fault.isExpected then .ok { ending := .stopped fault.message, errors := log }
    else .error fault
  | .ok r =>
    let (output, errors) := shown a r
    .ok { ending := .status (if r.isFound then 0 else 1), output, errors := log ++ errors }

/-- Runs the command with the given arguments. -/
def run (read : ConfigFile.Reader) (fs : FileSystem) (src : Sources) (arguments : List String) :
    Except CommandFault Outcome :=
  match request arguments with
  | .error fault => .ok { ending := .status 2, errors := complaint fault }
  | .ok .help => .ok { ending := .status 0, output := help }
  | .ok (.lookup a) => runLookup read fs src a

end Command
end Keystore
