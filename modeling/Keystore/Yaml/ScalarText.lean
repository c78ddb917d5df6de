/-
# What the text of a scalar says

The text of a scalar is read as its tag says: as an integer, a number, a date or moment, bytes
in base 64, or a truth value.  A tag may be written in front of any text, so each reader meets
texts that are nothing of its kind.
-/
import Keystore.Text.Lower
import Keystore.Value
import Keystore.Yaml.Fault
import Keystore.Yaml.Tag

namespace Keystore
namespace Yaml
namespace ScalarText

/-! ## Numbers -/

/-- Reads an integer of a base. -/
def readInteger (base : Nat) (cs : List Char) : Except ValueFault Int :=
  let (negative, digits) := Numeral.signedDigits base cs
  let count := (digits.takeWhile Char.isDigit).length
  if base = 10 ∧ Numeral.digitLimit < count then .error (.tooManyDigits count)
  else match Numeral.read? base digits with
    | some n => .ok (if negative then -n else n)
    | none => .error (.noInteger base (String.ofList cs))

/-- A text without underscores and without its sign, and whether that is a minus. -/
def signAndBody (cs : List Char) : Bool × List Char :=
  let cs := cs.filter (· ≠ '_')
  (cs.head? = some '-', Tag.unsigned cs)

/-- The integer that a text is. -/
def integer (text : String) : Except ValueFault Int := do
  let (negative, body) := signAndBody text.toList
  let magnitude ← match body with
    | [] => throw .emptyNumber
    | ['0'] => pure 0
    | '0' :: 'b' :: ds => readInteger 2 ds
    | '0' :: 'x' :: ds => readInteger 16 ds
    | '0' :: _ => readInteger 8 body
    | _ =>
      if body.contains ':' then
        (Tag.cutAt ':' body).foldlM (fun n part => return n * 60 + (← readInteger 10 part)) 0
      else readInteger 10 body
  return if negative then -magnitude else magnitude

/-- Reads a number. -/
def readNumber (cs : List Char) : Except ValueFault Float :=
  match Decimal.read? ((Blank.trim cs).map Numeral.asciiDigit) with
  | some x => .ok x
  | none => .error (.noNumber (String.ofList cs))

/-- Adds numbers to a sum, the first of them times `unit` and each further one times sixty times
as much as the one in front of it. -/
def addSixtieths (unit : Nat) (sum : Float) : List Float → Except ValueFault Float
  | [] => .ok sum
  | x :: xs =>
    if 2 ^ 1024 ≤ unit then .error .tooManySixtieths
    else addSixtieths (unit * 60) (sum + x * Binary.nearest unit 0) xs

/-- The number that a text is.  There is one word for what is no number; a text that is none in
another way makes one of its own for its node. -/
def number (node : Nat) (text : String) : Except ValueFault Scalar := do
  let (negative, body) := signAndBody (Lower.chars text.toList)
  if !text.toList.any (· ≠ '_') then throw .emptyNumber
  if body = ['.', 'n', 'a', 'n'] then return .float .nan
  let magnitude ←
    if body = ['.', 'i', 'n', 'f'] then pure (1.0 / 0.0)
    else if body.contains ':' then do
      let parts ← (Tag.cutAt ':' body).mapM readNumber
      addSixtieths 1 0.0 parts.reverse
    else readNumber body
  match Binary.ofFloat (if negative then -magnitude else magnitude) with
  | .nan => return .nanOf node
  | x => return .float x

/-! ## Dates, bytes and truth values -/

/-- The date or moment that a text is. -/
def timestamp (text : String) : Except ValueFault Scalar :=
  match TimestampText.ofText? (Tag.chomp text.toList) with
  | none => .error .noMoment
  | some t =>
    match t.time with
    | none =>
      match Date.ofNumbers t.year t.month t.day with
      | .ok date => .ok (.date date)
      | .error fault => .error (.calendar fault)
    | some c =>
      match Moment.ofNumbers t.year t.month t.day c.hour c.minute c.second
          (TimestampText.micro c.fraction) c.offset with
      | .ok moment => .ok (.moment moment)
      | .error fault => .error (.calendar fault)

/-- The value of a character in base 64. -/
def sextet? (c : Char) : Option Nat :=
  if 'A' ≤ c ∧ c ≤ 'Z' then some (c.toNat - 'A'.toNat)
  else if 'a' ≤ c ∧ c ≤ 'z' then some (c.toNat - 'a'.toNat + 26)
  else if '0' ≤ c ∧ c ≤ '9' then some (c.toNat - '0'.toNat + 52)
  else if c = '+' then some 62
  else if c = '/' then some 63
  else none

/-- The sextets of a text in base 64; other characters do not count.  The text ends where equals
signs complete a group of four. -/
def sextets : (seen pads : Nat) → List Char → List Nat × Bool
  | seen, _, [] => ([], seen % 4 = 0)
  | seen, pads, '=' :: cs =>
    if 2 ≤ seen % 4 then
      if 4 ≤ seen % 4 + pads + 1 then ([], true) else sextets seen (pads + 1) cs
    else sextets seen pads cs
  | seen, pads, c :: cs =>
    match sextet? c with
    | some n =>
      let (rest, complete) := sextets (seen + 1) 0 cs
      (n :: rest, complete)
    | none => sextets seen pads cs

/-- The bytes that groups of four sextets are; the last group may be shorter. -/
def bytesOfSextets : List Nat → List UInt8
  | a :: b :: c :: d :: rest =>
    UInt8.ofNat (a * 4 + b / 16) :: UInt8.ofNat (b % 16 * 16 + c / 4) ::
      UInt8.ofNat (c % 4 * 64 + d) :: bytesOfSextets rest
  | [a, b, c] => [UInt8.ofNat (a * 4 + b / 16), UInt8.ofNat (b % 16 * 16 + c / 4)]
  | [a, b] => [UInt8.ofNat (a * 4 + b / 16)]
  | _ => []

/-- The bytes that a text in base 64 is. -/
def base64? (cs : List Char) : Option (List UInt8) :=
  if cs.any fun c => 128 ≤ c.toNat then none
  else match sextets 0 0 cs with
    | (ns, true) => some (bytesOfSextets ns)
    | (_, false) => none

/-- The truth value that a text is. -/
def truthValue (text : String) : Except ValueFault Bool :=
  let word := Lower.text text
  match Tag.truthWords.lookup word with
  | some b => .ok b
  | none => .error (.noTruthValue word)

end ScalarText
end Yaml
end Keystore
