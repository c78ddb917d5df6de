/-
# Scalars

Readers for the texts of scalars.  A single line break inside a scalar counts as a space, and of
several the first one is dropped.  Quoted scalars are folded in this way between their quotes,
plain scalars between their words, and block scalars line by line if their header asks for it.
-/
import Keystore.Yaml.Cursor

namespace Keystore
namespace Yaml

/-- What the breaks between two lines count as: `first` ends the first line, and `others` end
the empty lines behind it. -/
def folded (first others : List Char) : List Char :=
  if first ≠ ['\n'] then first ++ others else if others.isEmpty then [' '] else others

/-! ## Quoted scalars -/

/-- What a character stands for behind a backslash. -/
def escaped? : Char → Option Char
  | '0' => some '\x00'
  | 'a' => some '\x07'
  | 'b' => some '\x08'
  | 't' => some '\t'
  | '\t' => some '\t'
  | 'n' => some '\n'
  | 'v' => some '\x0B'
  | 'f' => some '\x0C'
  | 'r' => some '\r'
  | 'e' => some '\x1B'
  | ' ' => some ' '
  | '"' => some '"'
  | '\\' => some '\\'
  | '/' => some '/'
  | 'N' => some '\x85'
  | '_' => some '\xA0'
  | 'L' => some '\u2028'
  | 'P' => some '\u2029'
  | _ => none

/-- The number of hexadecimal digits that a letter announces behind a backslash. -/
def escapedDigits? : Char → Option Nat
  | 'x' => some 2
  | 'u' => some 4
  | 'U' => some 8
  | _ => none

/-- Reads the line breaks of empty lines, and the blanks in front of the next text. -/
def quotedBreaks : Nat → Read (List Char)
  | 0 => return []
  | fuel + 1 => do
    if (← get).atMarker then flawed .markerInQuote
    let _ ← takeRun fun c => c = ' ' || c = '\t'
    match ← lineBreak with
    | [] => return []
    | b => return b ++ (← quotedBreaks fuel)

/-- The character that the two halves of a surrogate pair stand for. -/
def joined? (high low : Nat) : Option Char :=
  if 0xD800 ≤ high ∧ high < 0xDC00 ∧ 0xDC00 ≤ low ∧ low < 0xE000 then
    some (Char.ofNat (0x10000 + (high - 0xD800) * 0x400 + (low - 0xDC00)))
  else none

/-- Reads the escape of the second half of a surrogate pair behind the first one, and gives the
character that both stand for; nothing is read if there is no such escape. -/
def readLowHalf (high : Nat) : Read (Option Char) := do
  match (← get).rest with
  | '\\' :: 'u' :: rest =>
    match (Numeral.read? 16 (rest.take 4)).bind (joined? high) with
    | some c =>
      advance 6
      return some c
    | none => return none
  | _ => return none

/-- Reads what is behind a backslash.  Texts are made of characters, and a half of a surrogate pair
is none.  So the two halves of a pair that follow one another are the character that they mean
together, and a half alone counts as a character that could not be read. -/
def readEscape : Read (List Char) := do
  match ← peek with
  | none => flawed .escape
  | some c =>
    if let some meant := escaped? c then
      advance 1
      return [meant]
    else if let some digits := escapedDigits? c then
      advance 1
      let text := (← get).rest.take digits
      if text.length ≠ digits then flawed .escape
      match Numeral.read? 16 text with
      | none => flawed .escape
      | some code =>
        if 0x80000000 ≤ code then throw (.value .hugeCode)
        if 0x110000 ≤ code then throw (.value .noCharacter)
        advance digits
        if code.isValidChar then return [Char.ofNat code]
        return [(← readLowHalf code).getD '\uFFFD']
    else if isBreak c then
      let _ ← lineBreak
      quotedBreaks (← stepsLeft)
    else flawed .escape

/-- Reads the text between the quotes, and the closing quote. -/
def quotedText (quote : Char) : Nat → Read (List Char)
  | 0 => flawed .unfinishedQuote
  | fuel + 1 => do
    match (← get).rest with
    | [] => flawed .unfinishedQuote
    | c :: after =>
      if c = quote then
        advance 1
        if quote = '\'' && after.head? = some '\'' then
          advance 1
          return '\'' :: (← quotedText quote fuel)
        else return []
      else if c = '\\' && quote = '"' then
        advance 1
        let meant ← readEscape
        return meant ++ (← quotedText quote fuel)
      else if c = ' ' || c = '\t' || isBreak c then
        let blanks ← takeRun fun c => c = ' ' || c = '\t'
        let gap ← do
          match ← lineBreak with
          | [] => pure blanks
          | b => pure (folded b (← quotedBreaks (← stepsLeft)))
        return gap ++ (← quotedText quote fuel)
      else
        advance 1
        return c :: (← quotedText quote fuel)

/-- Reads a quoted scalar. -/
def readQuoted (quote : Char) : Read String := do
  advance 1
  return String.ofList (← quotedText quote (← stepsLeft))

/-! ## Plain scalars -/

/-- The brackets, braces and commas that end a plain scalar inside a flow collection. -/
def isFlowSign (c : Char) : Bool := [',', '[', ']', '{', '}'].contains c

/-- The longest word of a plain scalar in front of a text. -/
def plainWord (inFlow : Bool) : List Char → List Char
  | [] => []
  | c :: rest =>
    if endsToken (some c) then []
    else if c = ':' && (endsToken rest.head? || (inFlow && rest.head?.any isFlowSign)) then []
    else if inFlow && (c = '?' || isFlowSign c) then []
    else c :: plainWord inFlow rest

/-- Reads the line breaks of empty lines, and the spaces in front of the next text; nothing if a
marker between documents comes first. -/
def plainBreaks : Nat → Read (Option (List Char))
  | 0 => return some []
  | fuel + 1 => do
    if (← get).atMarker then return none
    let _ ← takeRun (· = ' ')
    match ← lineBreak with
    | [] => return some []
    | b => return (← plainBreaks fuel).map (b ++ ·)

/-- Reads what is between two words of a plain scalar, and says whether a line ended there.
There is nothing between them if the scalar ends here. -/
def plainGap : Read (Option (List Char) × Bool) := do
  let spaces ← takeRun (· = ' ')
  match ← lineBreak with
  | [] => return (if spaces.isEmpty then none else some spaces, false)
  | b => return ((← plainBreaks (← stepsLeft)).map (folded b), true)

/-- Reads the words of a plain scalar, `gap` being in front of the first one, and says whether
a line ended behind the last one. -/
def plainWords (inFlow : Bool) (least : Int) (lineEnded : Bool) (gap : List Char) :
    Nat → Read (List Char × Bool)
  | 0 => return ([], lineEnded)
  | fuel + 1 => do
    let word := plainWord inFlow (← get).rest
    if word.isEmpty || word.head? = some '#' then return ([], lineEnded)
    advance word.length
    match ← plainGap with
    | (none, ended) => return (gap ++ word, ended)
    | (some more, ended) =>
      let c ← get
      if c.rest.head? = some '#' || (!inFlow && (c.column : Int) < least) then
        return (gap ++ word, ended)
      let (words, ended) ← plainWords inFlow least ended more fuel
      return (gap ++ word ++ words, ended)

/-- Reads a plain scalar whose further lines start at the column `least` or behind it, unless it
stands in a flow collection, and says whether a line ended behind it. -/
def readPlain (inFlow : Bool) (least : Int) : Read (String × Bool) := do
  let (text, ended) ← plainWords inFlow least false [] (← stepsLeft)
  return (String.ofList text, ended)

/-! ## Block scalars -/

/-- What happens to the line breaks at the end of a block scalar. -/
inductive Chomping where
  /-- All are dropped. -/
  | strip
  /-- The first is kept. -/
  | clip
  /-- All are kept. -/
  | keep
deriving DecidableEq, Repr

/-- Reads the sign for chomping, if there is one. -/
def readChomping : Read (Option Chomping) := do
  match ← peek with
  | some '+' => advance 1; return some .keep
  | some '-' => advance 1; return some .strip
  | _ => return none

/-- Reads the digit for the indentation, if there is one. -/
def readIncrement : Read (Option Nat) := do
  match (← peek).bind fun c => Numeral.read? 10 [c] with
  | some n =>
    if n = 0 then flawed .blockHeader
    advance 1
    return some n
  | none => return none

/-- Reads the header of a block scalar: a sign and a digit, in either order and both optional. -/
def readHeader : Read (Chomping × Option Nat) := do
  let (chomping, increment) ← do
    match ← readChomping with
    | some chomping => pure (chomping, ← readIncrement)
    | none =>
      let increment ← readIncrement
      if increment.isSome then pure ((← readChomping).getD .clip, increment)
      else pure (.clip, none)
  if !endsWord (← peek) then flawed .blockHeader
  endOfLine .blockHeader
  return (chomping, increment)

/-- Reads empty lines, and of every line the spaces up to the column `indent`. -/
def blockBreaks (indent : Nat) : Nat → Read (List Char)
  | 0 => return []
  | fuel + 1 => do
    let c ← get
    let spaces := (c.rest.takeWhile (· = ' ')).length
    advance (min spaces (indent - c.column))
    match ← lineBreak with
    | [] => return []
    | b => return b ++ (← blockBreaks indent fuel)

/-- Reads empty lines and all spaces in front of the first line that is not empty, and says how
far the spaces go at most. -/
def leadingBreaks (furthest : Nat) : Nat → Read (List Char × Nat)
  | 0 => return ([], furthest)
  | fuel + 1 => do
    let spaces ← takeRun (· = ' ')
    let c ← get
    let furthest := if spaces.isEmpty then furthest else max furthest c.column
    match ← lineBreak with
    | [] => return ([], furthest)
    | b =>
      let (breaks, furthest) ← leadingBreaks furthest fuel
      return (b ++ breaks, furthest)

/-- A block scalar without the end of its last line: its text, the break that ends the last
line, and the breaks of the empty lines behind it. -/
structure BlockText where
  text : List Char
  /-- The break behind the last line. -/
  final : List Char
  /-- The breaks of the empty lines behind it. -/
  trailing : List Char

/-- Reads the lines of a block scalar, `breaks` being in front of the first one. -/
def blockLines (folding : Bool) (indent : Nat) (breaks : List Char) : Nat → Read BlockText
  | 0 => return ⟨[], [], breaks⟩
  | fuel + 1 => do
    let c ← get
    if c.column ≠ indent || c.rest.isEmpty then return ⟨[], [], breaks⟩
    let line ← takeRun (! isBreak ·)
    let final ← lineBreak
    let empty ← blockBreaks indent (← stepsLeft)
    let c ← get
    if c.column = indent && !c.rest.isEmpty then
      let blank (next : Option Char) : Bool := next = some ' ' || next = some '\t'
      let flush := !blank line.head? && !blank c.rest.head?
      let join :=
        if folding && flush && final = ['\n'] then if empty.isEmpty then [' '] else [] else final
      let more ← blockLines folding indent empty fuel
      return { more with text := breaks ++ line ++ join ++ more.text }
    else return ⟨breaks ++ line, final, empty⟩

/-- Reads a block scalar inside a collection whose indentation is `outer`. -/
def readBlock (folding : Bool) (outer : Int) : Read String := do
  advance 1
  let (chomping, increment) ← readHeader
  let least := max 1 (outer + 1).toNat
  let (breaks, indent) ← do
    match increment with
    | some n =>
      let indent := least + n - 1
      pure (← blockBreaks indent (← stepsLeft), indent)
    | none =>
      let (breaks, furthest) ← leadingBreaks 0 (← stepsLeft)
      pure (breaks, max least furthest)
  let block ← blockLines folding indent breaks (← stepsLeft)
  return String.ofList <| match chomping with
    | .strip => block.text
    | .clip => block.text ++ block.final
    | .keep => block.text ++ block.final ++ block.trailing

end Yaml
end Keystore
