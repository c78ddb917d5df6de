/-
# The command

Runs the command on the files and the environment of the process.  Only the paths that the
command looks at are taken from the disk: the configuration file, and the directory that its
settings lead to, with what lies directly in it.  A link counts as what it leads to.
-/
import Keystore.Command.Run
import Keystore.FileSystem.Edit
import Keystore.Yaml.Content

namespace Keystore
namespace Main

/-- Adds what is at a path to the known files; a directory with what lies directly in it. -/
def survey (fs : FileSystem) (path : Path) : IO FileSystem := do
  let full := (← IO.currentDir) / path.render
  let plant (fs : FileSystem) (thing : FileSystem.Planting) : FileSystem :=
    (fs.plant thing).toOption.getD fs
  if !(← full.pathExists) then return fs
  if ← full.isDir then
    let mut fs := plant fs (.directory path.render)
    for entry in ← full.readDir do
      let name := (path.child entry.fileName).render
      if ← entry.path.isDir then fs := plant fs (.directory name)
      else if ← entry.path.pathExists then fs := plant fs (.file name [])
    return fs
  else
    let content ← IO.FS.readBinFile full
    return plant fs (.file path.render content.toList)

/-- The environment variables that are settings. -/
def environment : IO Settings := do
  Setting.all.mapM fun s => return (s.variableName, ← IO.getEnv s.variableName)

/-- The path that a lookup starts from. -/
def startOf (identity : Identity) (config : LookupConfig) : Option Path :=
  match config.override with
  | some override => some (.ofString override)
  | none => config.rootDirectory.map identity.baseUnder

/-- The files that the command looks at. -/
def surveyed (src : Sources) (a : Command.Arguments) : IO FileSystem := do
  let mut fs := FileSystem.bare ((← IO.currentDir).components.filter (· ≠ ""))
  if let some path := nonempty? a.config then fs ← survey fs (.ofString path)
  if let .ok p := (Command.configured Yaml.read fs a).value then
    if let some start := startOf a.identity (p.read src).value then fs ← survey fs start
  return fs

/-- Writes what a run of the command leaves behind, and gives the status of the process. -/
def finish (outcome : Except Command.CommandFault Command.Outcome) : IO UInt32 := do
  match outcome with
  | .error fault =>
    IO.eprintln fault.message
    return 1
  | .ok o =>
    IO.print o.output
    IO.eprint o.errors
    match o.ending with
    | .status n => return n.toUInt32
    | .stopped message =>
      IO.eprintln message
      return 1

end Main
end Keystore

open Keystore in
/-- Runs the command with the arguments of the process. -/
def main (arguments : List String) : IO UInt32 := do
  let src : Sources := { environment := ← Main.environment }
  let fs ← match Command.request arguments with
    | .ok (.lookup a) => Main.surveyed src a
    | _ => pure (FileSystem.bare [])
  Main.finish (Command.run Yaml.read fs src arguments)
