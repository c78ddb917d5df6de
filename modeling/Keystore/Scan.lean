/-
# Scanning a directory for a node

Of the directories directly below the base, those that match the node's name are candidates.
The longest one wins, and of two that are equally long the one that comes first in the order of
texts.  All children are looked at before any name is compared, so a child that cannot be
looked at spoils the scan whatever its name.
-/
import Keystore.FileSystem.Walk
import Keystore.Policy

namespace Keystore

/-- Whether the first of two names is the better match: the longer one, then the smaller one. -/
def isBetterMatch (a b : String) : Bool :=
  b.length < a.length || (a.length = b.length && !(b < a))

/-- The matches from the best to the worst. -/
def rankMatches (names : List String) : List String := names.mergeSort isBetterMatch

namespace FileSystem

/-- Those of the names that lead from the base to directories.  The names are looked at in
order, and the first one that cannot be looked at is reported. -/
def directoriesAmong (fs : FileSystem) (base : Path) : List String → Except PathFault (List String)
  | [] => .ok []
  | name :: rest =>
    match fs.isDirectory (base.child name) with
    | .error fault => .error fault
    | .ok here =>
      match directoriesAmong fs base rest with
      | .error fault => .error fault
      | .ok found => .ok (if here then name :: found else found)

/-- The names of the directories directly below the base. -/
def subdirectories (fs : FileSystem) (base : Path) : Except PathFault (List String) :=
  match fs.listing base with
  | .error fault => .error fault
  | .ok names => fs.directoriesAmong base names

/-- The directory below the base that best matches a node's name. -/
def bestMatch (fs : FileSystem) (base : Path) (name : String) (policy : MatchPolicy) :
    Logged (Except PathFault (Option String)) :=
  match fs.subdirectories base with
  | .error fault => .silent (.error fault)
  | .ok found =>
    match rankMatches (found.filter (policy.accepts · name)) with
    | [] => .silent (.ok none)
    | [only] => .silent (.ok (some only))
    | best :: others => ⟨[.severalDirectories base name (best :: others)], .ok (some best)⟩

end FileSystem
end Keystore
