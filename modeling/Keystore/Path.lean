/-
# Paths

A path is a way through directories: it starts at the working directory or at the top
directory, and goes through the named directories in turn.  Reading a path from text drops
empty names and the name `.`, and keeps `..`, which means something only once links are
followed.  A path that starts with exactly two slashes keeps both of them.
-/

namespace Keystore

/-! ## Texts cut at slashes -/

/-- Cuts a text at every slash; neighbouring slashes have an empty text between them. -/
def cutAtSlashes : List Char → List (List Char)
  | [] => [[]]
  | c :: cs =>
    if c = '/' then [] :: cutAtSlashes cs
    else match cutAtSlashes cs with
      | [] => [[c]]
      | word :: words => (c :: word) :: words

/-- The texts between slashes that are not empty, in order. -/
def pieces (text : String) : List String :=
  ((cutAtSlashes text.toList).filter (! ·.isEmpty)).map String.ofList

/-- Names with a slash between neighbours. -/
def joinSlash (names : List String) : String :=
  String.ofList (List.intercalate ['/'] (names.map String.toList))

/-! ## Paths -/

/-- Where a path starts. -/
inductive Origin where
  /-- At the working directory. -/
  | here
  /-- At the top directory, written with one slash. -/
  | top
  /-- At the top directory, written with two slashes. -/
  | doubleTop
deriving DecidableEq, Repr

/-- What is written in front of the first name. -/
def Origin.text : Origin → String
  | here => ""
  | top => "/"
  | doubleTop => "//"

/-- The origin of a path that is written with `n` slashes in front. -/
def Origin.ofSlashes : Nat → Origin
  | 0 => here
  | 2 => doubleTop
  | _ => top

/-- A way through directories. -/
structure Path where
  /-- Where the path starts. -/
  origin : Origin
  /-- The names to go through, in order; `..` may be among them. -/
  names : List String
deriving DecidableEq, Repr

namespace Path

/-- The names that a text contributes to a path: its pieces without `.`. -/
def namesOf (text : String) : List String := (pieces text).filter (· ≠ ".")

/-- Reads a path. -/
def ofString (text : String) : Path where
  origin := .ofSlashes (text.toList.takeWhile (· = '/')).length
  names := namesOf text

/-- Writes a path; the path without origin and names is written as a dot. -/
def render (p : Path) : String :=
  if p.origin = .here ∧ p.names = [] then "." else p.origin.text ++ joinSlash p.names

instance : ToString Path := ⟨render⟩

/-- The path followed by further names; the name `.` adds nothing. -/
def append (p : Path) (names : List String) : Path :=
  { p with names := p.names ++ names.filter (· ≠ ".") }

/-- The path to an entry of the directory. -/
def child (p : Path) (name : String) : Path := { p with names := p.names ++ [name] }

/-- The path to the directory that holds the last name. -/
def parent (p : Path) : Path := { p with names := p.names.dropLast }

example : (ofString "./a//b/../c/").render = "a/b/../c" := by decide
example : (ofString "//a").render = "//a" ∧ (ofString "///a").render = "/a" := by decide
example : (ofString "").render = "." := by decide

end Path
end Keystore
