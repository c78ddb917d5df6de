/-
# Following a path

`FileSystem.locate` follows a path to the place that it stands for.  Links are followed
wherever they occur, the last name included; a link starts from the directory that holds it,
or from the top directory if its target starts with a slash.  At most forty links are followed
on one way.  A name holds at most 255 bytes, and a path fewer than 4096.

The questions that programs ask are built on it: `isDirectory`, `isPresent`, `listing` and
`content`.  The first two answer `false` where there is nothing to find, and report only a path
that is too long; the others report every fault.
-/
import Keystore.FileSystem.Basic

namespace Keystore
namespace FileSystem

/-- The most links that are followed on one way. -/
def linkLimit : Nat := 40

/-- The most bytes that a name may hold. -/
def nameLimit : Nat := 255

/-- The number of bytes that the text of a path has to stay below. -/
def pathLimit : Nat := 4096

/-- How far a way can be gone without following a link. -/
inductive Stretch where
  /-- To its end. -/
  | ended (place : Place)
  /-- Up to a link in the directory `dir`, with further names behind it. -/
  | atLink (dir : Place) (target : String) (rest : List String)
deriving DecidableEq, Repr

/-- Goes on from a place through the given names, up to the end or the first link.  Every name
is looked for in a directory; `.` and `..` stand for that directory and the one above. -/
def stretch (fs : FileSystem) (place : Place) : List String → Except Fault Stretch
  | [] => .ok (.ended place)
  | name :: rest =>
    if fs.entry? place ≠ some .directory then .error .notDirectory
    else if name = "." then stretch fs place rest
    else if name = ".." then stretch fs place.dropLast rest
    else if name.utf8ByteSize > nameLimit then .error .nameTooLong
    else match fs.entry? (place ++ [name]) with
      | none => .error .notFound
      | some (.link target) => .ok (.atLink place target rest)
      | some _ => stretch fs (place ++ [name]) rest

/-- The names that the target of a link stands for; a slash at the end asks for a directory. -/
def linkNames (target : String) : List String :=
  pieces target ++ if target.toList.getLast? = some '/' then ["."] else []

/-- Where the target of a link in the directory `dir` starts. -/
def linkStart (dir : Place) (target : String) : Place :=
  if target.toList.head? = some '/' then [] else dir

/-- Goes on from a place through the given names, following at most `links` links. -/
def walk (fs : FileSystem) (links : Nat) (place : Place) (names : List String) :
    Except Fault Place :=
  match fs.stretch place names with
  | .error fault => .error fault
  | .ok (.ended place) => .ok place
  | .ok (.atLink dir target rest) =>
    match links with
    | 0 => .error .linkLoop
    | links + 1 => walk fs links (linkStart dir target) (linkNames target ++ rest)

/-- Where a path starts. -/
def start (fs : FileSystem) : Origin → Place
  | .here => fs.workingDirectory
  | .top => []
  | .doubleTop => []

/-- The place that a path stands for, once all links are followed. -/
def locate (fs : FileSystem) (path : Path) : Except Fault Place :=
  if path.render.toList.contains '\x00' then .error .embeddedNul
  else if pathLimit ≤ path.render.utf8ByteSize then .error .nameTooLong
  else fs.walk linkLimit (fs.start path.origin) path.names

/-! ## Questions -/

/-- What a path leads to: `none` where there is nothing to find. -/
def look? (fs : FileSystem) (path : Path) : Except PathFault (Option Entry) :=
  match fs.locate path with
  | .ok place => .ok (fs.entry? place)
  | .error fault => if fault.isAbsence then .ok none else .error ⟨fault, path⟩

/-- Whether a path leads to a directory. -/
def isDirectory (fs : FileSystem) (path : Path) : Except PathFault Bool :=
  (fs.look? path).map fun entry => entry = some .directory

/-- Whether a path leads to anything. -/
def isPresent (fs : FileSystem) (path : Path) : Except PathFault Bool :=
  (fs.look? path).map Option.isSome

/-- The names that the directory at a path lists. -/
def listing (fs : FileSystem) (path : Path) : Except PathFault (List String) :=
  match fs.locate path with
  | .error fault => .error ⟨fault, path⟩
  | .ok place =>
    match fs.entry? place with
    | some .directory => .ok (fs.children place)
    | some _ => .error ⟨.notDirectory, path⟩
    | none => .error ⟨.notFound, path⟩

/-- The content of the file at a path. -/
def content (fs : FileSystem) (path : Path) : Except PathFault (List UInt8) :=
  match fs.locate path with
  | .error fault => .error ⟨fault, path⟩
  | .ok place =>
    match fs.entry? place with
    | some (.file bytes) => .ok bytes
    | some _ => .error ⟨.isDirectory, path⟩
    | none => .error ⟨.notFound, path⟩

end FileSystem
end Keystore
