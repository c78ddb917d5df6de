/-
# Command-line arguments

The arguments are a node's name, optionally its namespace, and switches anywhere around them.
Long switches may be shortened as long as one is meant, and take a value behind an equals sign.
Behind a lone `--` nothing is a switch.

The name and the namespace are taken together: from the first run of texts that are no switches
nor their values, as many as there are, at most two.  Whatever is left over is refused.
-/
import Keystore.Text.Quoted

namespace Keystore
namespace Command

/-- A switch of the command. -/
inductive Switch where
  | help
  | config
  | json
  | verbose
deriving DecidableEq, Repr

namespace Switch

/-- All switches, in the order in which they are listed. -/
def all : List Switch := [help, config, json, verbose]

/-- The long form of a switch. -/
def long : Switch → String
  | help => "--help"
  | config => "--config"
  | json => "--json"
  | verbose => "--verbose"

/-- A switch as error messages name it. -/
def title : Switch → String
  | help => "-h/--help"
  | s => s.long

/-- Whether the switch takes a value. -/
def takesValue : Switch → Bool
  | config => true
  | _ => false

end Switch

/-- What the arguments say. -/
structure Arguments where
  name : String
  scope : String := "/"
  config : Option String := none
  json : Bool := false
  verbose : Bool := false
deriving DecidableEq, Repr

/-- What is wrong with arguments. -/
inductive UsageFault where
  /-- A shortened switch that may mean several. -/
  | ambiguous (argument : String) (candidates : List Switch)
  | valueMissing (s : Switch)
  /-- A value of a switch that takes none. -/
  | valueUnexpected (s : Switch) (value : String)
  | nameMissing
  | leftOver (arguments : List String)
deriving DecidableEq, Repr

/-- The wording of a fault. -/
def UsageFault.message : UsageFault → String
  | ambiguous argument candidates =>
    "ambiguous option: " ++ argument ++ " could match " ++
      ", ".intercalate (candidates.map Switch.long)
  | valueMissing s => "argument " ++ s.title ++ ": expected one argument"
  | valueUnexpected s value =>
    "argument " ++ s.title ++ ": ignored explicit argument " ++ Quoted.text value
  | nameMissing => "the following arguments are required: name"
  | leftOver arguments => "unrecognized arguments: " ++ " ".intercalate arguments

/-- What the arguments ask for. -/
inductive Request where
  | help
  | lookup (arguments : Arguments)
deriving DecidableEq, Repr

/-! ## Arguments one by one -/

/-- What a single argument is. -/
inductive Piece where
  | text (s : String)
  /-- The first lone `--`, behind which everything is a text. -/
  | divider
  /-- A switch, and the value that is attached to it. -/
  | switch (s : Switch) (value : Option String)
  /-- A help switch of one letter, and what is written behind the letter. -/
  | letter (rest : Option String)
  /-- Something that looks like a switch and is none. -/
  | unknown (s : String)
deriving DecidableEq, Repr

/-- Whether a text without its dash is a number: decimal digits, or such digits behind a point
with or without digits in front of it.  A line feed may follow. -/
def isNumber (cs : List Char) : Bool :=
  let cs := if cs.getLast? = some '\n' then cs.dropLast else cs
  let whole := cs.takeWhile Numeral.isDecimalDigit
  match cs.dropWhile Numeral.isDecimalDigit with
  | [] => !whole.isEmpty
  | '.' :: fraction => !fraction.isEmpty && fraction.all Numeral.isDecimalDigit
  | _ => false

/-- An argument that starts with two dashes, cut at its first equals sign. -/
def cutAtEquals (cs : List Char) : String × Option String :=
  match cs.dropWhile (· ≠ '=') with
  | [] => (String.ofList cs, none)
  | _ :: value => (String.ofList (cs.takeWhile (· ≠ '=')), some (String.ofList value))

/-- The switches whose long form starts with a text. -/
def candidates (beginning : String) : List Switch :=
  Switch.all.filter fun s => beginning.toList.isPrefixOf s.long.toList

/-- What an argument is that is neither a switch nor a shortened one. -/
def otherPiece (argument : String) (afterDash : List Char) : Piece :=
  if isNumber afterDash || argument.toList.contains ' ' then .text argument
  else .unknown argument

/-- What an argument in front of the divider is. -/
def piece (argument : String) : Except UsageFault Piece :=
  match argument.toList with
  | '-' :: '-' :: rest =>
    let (beginning, value) := cutAtEquals ('-' :: '-' :: rest)
    match Switch.all.find? (·.long = argument), Switch.all.find? (·.long = beginning) with
    | some s, _ => .ok (.switch s none)
    | none, some s => .ok (.switch s value)
    | none, none =>
      match candidates beginning with
      | [] => .ok (otherPiece argument ('-' :: rest))
      | [s] => .ok (.switch s value)
      | several => .error (.ambiguous argument several)
  | '-' :: 'h' :: rest =>
    .ok (.letter (match rest with
      | [] => none
      | '=' :: value => some (String.ofList value)
      | _ => some (String.ofList rest)))
  | '-' :: c :: rest => .ok (otherPiece argument (c :: rest))
  | _ => .ok (.text argument)

/-- What the arguments are, one by one. -/
def pieces : List String → Except UsageFault (List Piece)
  | [] => .ok []
  | argument :: rest =>
    if argument = "--" then .ok (.divider :: rest.map .text)
    else do
      let p ← piece argument
      return p :: (← pieces rest)

/-! ## Taking them in -/

/-- The state of taking arguments in. -/
structure Intake where
  /-- The name and the namespace, once they are known. -/
  names : Option (String × String) := none
  config : Option String := none
  json : Bool := false
  verbose : Bool := false
  leftOver : List String := []
deriving DecidableEq, Repr

/-- The text in front, with the divider on either side of it, and what follows. -/
def slice : List Piece → Option (List String × List Piece)
  | .text s :: .divider :: rest => some ([s], rest)
  | .text s :: rest => some ([s], rest)
  | .divider :: .text s :: rest => some (["--", s], rest)
  | _ => none

/-- The text that a slice stands for: its first `--` does not count. -/
def sliceText (slice : List String) : Option String := (slice.erase "--").head?

/-- A piece as it was written, if it is no switch. -/
def Piece.written? : Piece → Option String
  | text s => some s
  | divider => some "--"
  | _ => none

/-- Takes in a run of texts. -/
def Intake.takeTexts (i : Intake) (run : List Piece) : Intake :=
  let leave (i : Intake) (rest : List Piece) : Intake :=
    { i with leftOver := i.leftOver ++ rest.filterMap Piece.written? }
  if i.names.isSome then leave i run
  else match slice run with
    | none => leave i run
    | some (nameSlice, rest) =>
      let name := (sliceText nameSlice).getD ""
      match slice rest with
      | none => leave { i with names := some (name, "/") } rest
      | some (scopeSlice, rest) =>
        leave { i with names := some (name, (sliceText scopeSlice).getD "/") } rest

/-- Takes in a switch without a value. -/
def Intake.takeSwitch (i : Intake) : Switch → Intake
  | .json => { i with json := true }
  | .verbose => { i with verbose := true }
  | _ => i

/-- Takes in the value of the configuration switch.  A lone `--` is dropped wherever it stands, so
attached to the switch it leaves no value, and no file is named. -/
def Intake.takeConfig (i : Intake) (path : String) : Intake :=
  { i with config := if path = "--" then none else some path }

/-- What is written behind the letter of a help switch, with an equals sign between them or without
one, has to be that letter again. -/
def letterFault? (rest : String) : Option UsageFault :=
  match rest.toList.dropWhile (· = 'h') with
  | [] => if rest = "" then some (.valueUnexpected .help "") else none
  | other => some (.valueUnexpected .help (String.ofList other))

/-- The request of arguments that have all been taken in. -/
def Intake.request (i : Intake) : Except UsageFault Request :=
  match i.names with
  | none => .error .nameMissing
  | some (name, scope) =>
    if i.leftOver.isEmpty then
      .ok (.lookup { name, scope, config := i.config, json := i.json, verbose := i.verbose })
    else .error (.leftOver i.leftOver)

/-- Takes in pieces, `run` being the texts in front of them in reverse order. -/
def Intake.take (i : Intake) (run : List Piece) : List Piece → Except UsageFault Request
  | [] => (i.takeTexts run.reverse).request
  | p :: rest =>
    match p with
    | .text s => take i (.text s :: run) rest
    | .divider => take i (.divider :: run) rest
    | .unknown s =>
      let i := i.takeTexts run.reverse
      take { i with leftOver := i.leftOver ++ [s] } [] rest
    | .letter value =>
      match value.bind letterFault? with
      | some fault => .error fault
      | none => .ok .help
    | .switch s value =>
      let i := i.takeTexts run.reverse
      match s.takesValue, value with
      | false, some v => .error (.valueUnexpected s v)
      | false, none => if s = .help then .ok .help else take (i.takeSwitch s) [] rest
      | true, some v => take (i.takeConfig v) [] rest
      | true, none =>
        match rest with
        | .text v :: rest => take (i.takeConfig v) [] rest
        | _ => .error (.valueMissing s)

/-- What the arguments ask for. -/
def request (arguments : List String) : Except UsageFault Request := do
  Intake.take {} [] (← pieces arguments)

end Command
end Keystore
