/-
# Reading a text from the front

A `Cursor` is what is left of a text, and where that is.  `Read` is the type of readers: each
takes something off the front of the text, or finds a flaw there.  A line ends with a line feed,
a next-line character, or one of the two separators of Unicode; the next-line character counts
as a line feed in the text that is read.
-/
import Keystore.Yaml.Fault

namespace Keystore
namespace Yaml

/-! ## Classes of characters

The classes are asked for the next character, which is `none` at the end of the text. -/

/-- Whether a character ends a line. -/
def isBreak (c : Char) : Bool := c = '\n' || c = '\x85' || c = '\u2028' || c = '\u2029'

/-- Whether a line ends here. -/
def endsLine : Option Char → Bool
  | none => true
  | some c => isBreak c

/-- Whether a line ends here, or a space follows. -/
def endsWord (next : Option Char) : Bool := endsLine next || next = some ' '

/-- Whether a line ends here, or a space or a tab follows. -/
def endsToken (next : Option Char) : Bool := endsWord next || next = some '\t'

/-- Whether a character is a letter, a digit, a dash or an underscore, in ASCII. -/
def isNameChar (c : Char) : Bool := c.isAlphanum || c = '-' || c = '_'

/-- Whether a document may hold the character. -/
def isDocumentChar (c : Char) : Bool :=
  c = '\t' || c = '\n' || c = '\r' || c = '\x85' || (' ' ≤ c && c ≤ '~') ||
    ('\xA0' ≤ c && c ≠ '\uFFFE' && c ≠ '\uFFFF')

/-! ## Cursors -/

/-- The rest of a text and its place. -/
structure Cursor where
  /-- What has not been read. -/
  rest : List Char
  /-- The number of characters read. -/
  index : Nat := 0
  line : Nat := 0
  column : Nat := 0
deriving DecidableEq, Repr

namespace Cursor

/-- The place as a position. -/
def position (c : Cursor) : Position := ⟨c.line, c.column⟩

/-- The cursor behind the next character.  A byte order mark takes no column. -/
def next (c : Cursor) : Cursor :=
  match c.rest with
  | [] => c
  | ch :: rest =>
    if isBreak ch then ⟨rest, c.index + 1, c.line + 1, 0⟩
    else ⟨rest, c.index + 1, c.line, if ch = '\uFEFF' then c.column else c.column + 1⟩

/-- The cursor behind the next `n` characters. -/
def skip (c : Cursor) : Nat → Cursor
  | 0 => c
  | n + 1 => skip c.next n

/-- Whether a marker between documents stands here: three dashes or three dots, and then no
further character of a token. -/
def atMarker (c : Cursor) : Bool :=
  match c.rest with
  | '-' :: '-' :: '-' :: after => endsToken after.head?
  | '.' :: '.' :: '.' :: after => endsToken after.head?
  | _ => false

end Cursor

/-! ## Readers -/

/-- A reader of the front of a text. -/
abbrev Read := StateT Cursor (Except Fault)

/-- Finds a flaw at the cursor. -/
def flawed {α : Type} (flaw : Flaw) : Read α := do
  throw (.malformed flaw (← get).position)

/-- The next character. -/
def peek : Read (Option Char) := return (← get).rest.head?

/-- Reads `n` characters. -/
def advance (n : Nat) : Read Unit := modify (·.skip n)

/-- Reads the longest run of characters of a class. -/
def takeRun (p : Char → Bool) : Read (List Char) := do
  let run := (← get).rest.takeWhile p
  advance run.length
  return run

/-- Reads a line break, if the line ends here, and gives what it counts as. -/
def lineBreak : Read (List Char) := do
  match ← peek with
  | some c =>
    if isBreak c then
      advance 1
      return [if c = '\x85' then '\n' else c]
    else return []
  | none => return []

/-- Reads what is left of the line, if that is nothing but spaces and a comment. -/
def endOfLine (flaw : Flaw) : Read Unit := do
  let _ ← takeRun (· = ' ')
  if (← peek) = some '#' then
    let _ ← takeRun (! isBreak ·)
  if endsLine (← peek) then
    let _ ← lineBreak
  else flawed flaw

/-- The number of steps that suffices for any loop that takes something off the text in each. -/
def stepsLeft : Read Nat := return (← get).rest.length + 1

end Yaml
end Keystore
