/-
# Changing a file system

Directories, files and links are put at paths, removed and renamed.  The directories that a
new entry needs are made on the way.  Links on the way to an entry are followed; the entry
itself is taken as it stands, except that writing to a link writes to the file behind it.
-/
import Keystore.FileSystem.Walk

namespace Keystore
namespace FileSystem

/-- Puts an entry at a place: where the old one was, or else behind all others. -/
def put (fs : FileSystem) (place : Place) (entry : Entry) : FileSystem :=
  if fs.entries.any (·.1 = place) then
    { fs with entries := fs.entries.map fun e => if e.1 = place then (place, entry) else e }
  else { fs with entries := fs.entries ++ [(place, entry)] }

/-- Takes away what is at a place and below it. -/
def clear (fs : FileSystem) (place : Place) : FileSystem :=
  { fs with entries := fs.entries.filter fun e => !place.isPrefixOf e.1 }

/-- Attaches the path to a fault. -/
def blame {α : Type} (path : Path) : Except Fault α → Except PathFault α :=
  Except.mapError fun fault => ⟨fault, path⟩

/-- The place of the entry that a path names, its last name taken as it stands.  A path that
ends without a name, or with `..`, names a directory but no entry of one. -/
def entryPlace (fs : FileSystem) (path : Path) : Except PathFault Place := do
  let dir ← blame path (fs.locate path.parent)
  match path.names.getLast? with
  | some name =>
    if isEntryName name then
      if name.utf8ByteSize > nameLimit then throw ⟨.nameTooLong, path⟩
      else return dir ++ [name]
    else if name.toList.contains '\x00' then throw ⟨.embeddedNul, path⟩
    else throw ⟨.isDirectory, path⟩
  | none => throw ⟨.isDirectory, path⟩

/-- Makes a directory in a directory that exists; one that exists already is fine. -/
def makeDirectory (fs : FileSystem) (path : Path) : Except PathFault FileSystem :=
  match fs.locate path with
  | .ok place =>
    if fs.entry? place = some .directory then .ok fs else .error ⟨.alreadyExists, path⟩
  | .error .notFound => do
    let place ← fs.entryPlace path
    if (fs.entry? place).isSome then .error ⟨.alreadyExists, path⟩
    else return fs.put place .directory
  | .error fault => .error ⟨fault, path⟩

/-- Makes a directory and all the directories on the way to it. -/
def makeDirectories (fs : FileSystem) (path : Path) : Except PathFault FileSystem :=
  (List.range path.names.length).foldlM
    (fun fs n => fs.makeDirectory { path with names := path.names.take (n + 1) }) fs

/-- Writes a file. -/
def writeFile (fs : FileSystem) (path : Path) (content : List UInt8) :
    Except PathFault FileSystem := do
  let fs ← fs.makeDirectories path.parent
  match fs.locate path with
  | .ok place =>
    match fs.entry? place with
    | some (.file _) => return fs.put place (.file content)
    | _ => throw ⟨.isDirectory, path⟩
  | .error .notFound => return fs.put (← fs.entryPlace path) (.file content)
  | .error fault => throw ⟨fault, path⟩

/-- Makes a link with the given target. -/
def makeLink (fs : FileSystem) (path : Path) (target : String) : Except PathFault FileSystem := do
  let fs ← fs.makeDirectories path.parent
  let place ← fs.entryPlace path
  if (fs.entry? place).isSome then throw ⟨.alreadyExists, path⟩
  else return fs.put place (.link target)

/-- Removes a file, a link, or a directory with all that is below it. -/
def remove (fs : FileSystem) (path : Path) : Except PathFault FileSystem := do
  let place ← fs.entryPlace path
  if (fs.entry? place).isNone then throw ⟨.notFound, path⟩
  else return fs.clear place

/-- The part of a place behind another place, if it lies there. -/
def below? : Place → Place → Option Place
  | [], p => some p
  | d :: dir, n :: p => if d = n then below? dir p else none
  | _ :: _, [] => none

/-- Renames an entry with all that is below it; what was at the new path is gone. -/
def rename (fs : FileSystem) (source target : Path) : Except PathFault FileSystem := do
  let old ← fs.entryPlace source
  if (fs.entry? old).isNone then throw ⟨.notFound, source⟩
  let new ← fs.entryPlace target
  if old = new then return fs
  let fs := fs.clear new
  return { fs with
    entries := fs.entries.map fun e =>
      match below? old e.1 with
      | some rest => (new ++ rest, e.2)
      | none => e }

/-! ## Trees -/

/-- One thing to put into a file system. -/
inductive Planting where
  | directory (path : String)
  | file (path : String) (content : List UInt8)
  | link (path : String) (target : String)
deriving DecidableEq, Repr

/-- Puts one thing into the file system. -/
def plant (fs : FileSystem) : Planting → Except PathFault FileSystem
  | .directory path => fs.makeDirectories (.ofString path)
  | .file path content => fs.writeFile (.ofString path) content
  | .link path target => fs.makeLink (.ofString path) target

/-- Puts things into the file system, in order. -/
def build (fs : FileSystem) (tree : List Planting) : Except PathFault FileSystem :=
  tree.foldlM plant fs

end FileSystem
end Keystore
