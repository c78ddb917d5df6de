/-
# Directives, anchors and tags

Readers for the parts of a document that say something about other parts.
-/
import Keystore.Yaml.Cursor
import Keystore.Yaml.Token
import Keystore.Text.Utf8

namespace Keystore
namespace Yaml

/-- Reads a name that is not empty. -/
def readName (flaw : Flaw) : Read String := do
  let name ← takeRun isNameChar
  if name.isEmpty then flawed flaw else return String.ofList name

/-! ## Anchors -/

/-- Reads the name of an anchor or alias, behind its sign. -/
def readAnchor : Read String := do
  let name ← readName .anchor
  let next ← peek
  if endsToken next || next.any ['?', ':', ',', ']', '}', '%', '@', '\x60'].contains then
    return name
  else flawed .anchor

/-! ## Tags -/

/-- Whether a character may stand in a tag as it is. -/
def isTagChar (c : Char) : Bool :=
  c.isAlphanum || ['-', ';', '/', '?', ':', '@', '&', '=', '+', '$', ',', '_', '.', '!', '~',
    '*', '\'', '(', ')', '[', ']'].contains c

/-- Reads a handle: an exclamation mark alone, or two around a name that may be empty. -/
def readHandle (flaw : Flaw) : Read String := do
  if (← peek) ≠ some '!' then flawed flaw
  advance 1
  if (← peek) = some ' ' then return "!"
  let name ← takeRun isNameChar
  if (← peek) ≠ some '!' then flawed flaw
  advance 1
  return "!" ++ String.ofList name ++ "!"

/-- Reads bytes that are written as a percent sign and two hexadecimal digits each. -/
def readEscapedBytes (flaw : Flaw) : Nat → Read (List UInt8)
  | 0 => return []
  | fuel + 1 => do
    match (← get).rest with
    | '%' :: a :: b :: _ =>
      match Numeral.read? 16 [a, b] with
      | some code =>
        advance 3
        return UInt8.ofNat code :: (← readEscapedBytes flaw fuel)
      | none => flawed flaw
    | '%' :: _ => flawed flaw
    | _ => return []

/-- Reads the characters of a tag and what is written with percent signs. -/
def readTagChars (flaw : Flaw) : Nat → Read (List Char)
  | 0 => return []
  | fuel + 1 => do
    let run ← takeRun isTagChar
    if (← peek) = some '%' then
      match Utf8.decode (← readEscapedBytes flaw (← stepsLeft)) with
      | .ok escaped => return run ++ escaped ++ (← readTagChars flaw fuel)
      | .error _ => flawed flaw
    else return run

/-- Reads the main part of a tag, which is not empty. -/
def readTagSuffix (flaw : Flaw) : Read String := do
  let chars ← readTagChars flaw (← stepsLeft)
  if chars.isEmpty then flawed flaw else return String.ofList chars

/-- Reads a tag. -/
def readTag : Read TagText := do
  let after := (← get).rest.drop 1
  let tag : TagText ← do
    if after.head? = some '<' then
      advance 2
      let suffix ← readTagSuffix .tag
      if (← peek) ≠ some '>' then flawed .tag
      advance 1
      pure ⟨none, suffix⟩
    else if endsToken after.head? then
      advance 1
      pure ⟨none, "!"⟩
    else if (after.takeWhile fun c => !endsWord (some c)).contains '!' then
      pure ⟨some (← readHandle .tag), ← readTagSuffix .tag⟩
    else
      advance 1
      pure ⟨some "!", ← readTagSuffix .tag⟩
  if endsWord (← peek) then return tag else flawed .tag

/-! ## Directives -/

/-- Reads decimal digits. -/
def readDigits : Read Nat := do
  let digits ← takeRun Char.isDigit
  if Numeral.digitLimit < digits.length then throw (.value (.tooManyDigits digits.length))
  match Numeral.read? 10 digits with
  | some n => return n
  | none => flawed .directive

/-- Reads a directive, behind the percent sign, to the end of the line. -/
def readDirective : Read Directive := do
  let name ← readName .directive
  if !endsWord (← peek) then flawed .directive
  let d : Directive ←
    if name = "YAML" then do
      let _ ← takeRun (· = ' ')
      let major ← readDigits
      if (← peek) ≠ some '.' then flawed .directive
      advance 1
      let _ ← readDigits
      if !endsWord (← peek) then flawed .directive
      pure (.version major)
    else if name = "TAG" then do
      let _ ← takeRun (· = ' ')
      let handle ← readHandle .directive
      if (← peek) ≠ some ' ' then flawed .directive
      let _ ← takeRun (· = ' ')
      let lead ← readTagSuffix .directive
      if !endsWord (← peek) then flawed .directive
      pure (.handle handle lead)
    else do
      let _ ← takeRun (! isBreak ·)
      pure .reserved
  endOfLine .directive
  return d

end Yaml
end Keystore
