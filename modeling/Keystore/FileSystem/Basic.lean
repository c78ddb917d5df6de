/-
# File systems

A file system says what is at each place: a directory, a file with its bytes, or a symbolic
link with its target text.  A place is the list of names that lead to it from the top
directory without following any link.  The working directory and the directories above it exist;
whatever else these hold has entries like everything.

Nothing is forbidden and no device fails: whoever asks may look at everything, and a directory that
is found can be listed.  What cannot be examined is what is too long, so a directory cannot be
read only because of what lies in it, when a name or a link there leads to a path that is too long.
-/
import Keystore.Path
import Keystore.Text.Quoted

namespace Keystore

/-- The names that lead from the top directory to an entry, through directories only. -/
abbrev Place := List String

/-- Whether a text can be the name of an entry.  The names `.` and `..` stand for a directory
and for the one above it, and no entry of a directory has them. -/
def isEntryName (name : String) : Bool :=
  name ≠ "" && name ≠ "." && name ≠ ".." && !name.toList.contains '/' &&
    !name.toList.contains '\x00'

/-- What is at a place. -/
inductive Entry where
  | directory
  | file (content : List UInt8)
  /-- A symbolic link and the text that it points to. -/
  | link (target : String)
deriving DecidableEq, Repr

/-- What is at each place, and the place that relative paths start from. -/
structure FileSystem where
  /-- The entries in the order in which directories list them. -/
  entries : List (Place × Entry)
  workingDirectory : Place
deriving DecidableEq, Repr

/-- Why a path cannot be used in the way that was asked for. -/
inductive Fault where
  | notFound
  /-- The path goes through, or ends at, something that is no directory. -/
  | notDirectory
  /-- The path ends at a directory. -/
  | isDirectory
  | alreadyExists
  /-- The path, or one of the names that it goes through, is too long. -/
  | nameTooLong
  /-- The path goes through too many links. -/
  | linkLoop
  /-- The text of the path holds the character that ends a path. -/
  | embeddedNul
deriving DecidableEq, Repr

/-- A fault together with the path that met it. -/
structure PathFault where
  fault : Fault
  path : Path
deriving DecidableEq, Repr

/-- Whether a fault only means that there is nothing to find. -/
def Fault.isAbsence : Fault → Bool
  | .notFound => true
  | .notDirectory => true
  | .linkLoop => true
  | .embeddedNul => true
  | _ => false

/-- The number and the wording of a fault that the operating system reports; `none` for the
fault that is found before the operating system is asked. -/
def Fault.report : Fault → Option (Nat × String)
  | notFound => some (2, "No such file or directory")
  | alreadyExists => some (17, "File exists")
  | notDirectory => some (20, "Not a directory")
  | isDirectory => some (21, "Is a directory")
  | nameTooLong => some (36, "File name too long")
  | linkLoop => some (40, "Too many levels of symbolic links")
  | embeddedNul => none

/-- The wording of a fault at a path. -/
def PathFault.message (f : PathFault) : String :=
  match f.fault.report with
  | some (number, wording) =>
    "[Errno " ++ Numeral.padded 10 1 number ++ "] " ++ wording ++ ": " ++
      Quoted.text f.path.render
  | none => "embedded null byte"

namespace FileSystem

/-- The file system with nothing in it but the way to the working directory. -/
def bare (workingDirectory : Place) : FileSystem where
  entries := (List.range workingDirectory.length).map fun n =>
    (workingDirectory.take (n + 1), .directory)
  workingDirectory

/-- What is at a place, if anything. -/
def entry? (fs : FileSystem) (p : Place) : Option Entry :=
  if p.isPrefixOf fs.workingDirectory then some .directory else fs.entries.lookup p

/-- The last step from `dir` to `p`, if `p` lies directly in `dir`. -/
def nameIn? : Place → Place → Option String
  | [], [name] => some name
  | d :: dir, n :: p => if d = n then nameIn? dir p else none
  | _, _ => none

/-- The names that the directory at a place lists. -/
def children (fs : FileSystem) (dir : Place) : List String :=
  fs.entries.filterMap fun e => nameIn? dir e.1

theorem nameIn?_append (dir : Place) (name : String) : nameIn? dir (dir ++ [name]) = some name := by
  induction dir with
  | nil => rfl
  | cons d dir ih => simp [nameIn?, ih]

theorem eq_append_of_nameIn? {dir p : Place} {name : String} (h : nameIn? dir p = some name) :
    p = dir ++ [name] := by
  induction dir generalizing p with
  | nil =>
    match p, h with
    | [n], h => simpa [nameIn?] using h
  | cons d dir ih =>
    match p, h with
    | n :: p, h =>
      simp only [nameIn?] at h
      split at h
      · next hd => simp [hd, ih h]
      · cases h

end FileSystem
end Keystore
