/-
# Dates and moments as text

A date is a year of four digits, a month and a day, with dashes between them.  A moment goes on
with a time: hours, minutes and seconds with colons between them, perhaps parts of a second, and
perhaps an offset from universal time.
-/
import Keystore.Calendar

namespace Keystore
namespace Yaml

/-- The time of a moment as it is written. -/
structure TimeText where
  hour : Nat
  minute : Nat
  second : Nat
  /-- The digits behind the point. -/
  fraction : List Char
  /-- The minutes by which the time is ahead of universal time, if that is written. -/
  offset : Option Int
deriving DecidableEq, Repr

/-- A date or a moment as it is written. -/
structure TimestampText where
  year : Nat
  month : Nat
  day : Nat
  /-- Whether month and day are both written with two digits. -/
  isWide : Bool
  time : Option TimeText
deriving DecidableEq, Repr

namespace TimestampText

/-- The number in front of a text that is written with `least` to `most` digits. -/
def number? (least most : Nat) (cs : List Char) : Option (Nat × List Char) :=
  let ds := cs.takeWhile Char.isDigit
  if least ≤ ds.length ∧ ds.length ≤ most then
    (Numeral.read? 10 ds).map fun n => (n, cs.dropWhile Char.isDigit)
  else none

/-- The text behind a character that has to be in front. -/
def behind? (c : Char) : List Char → Option (List Char)
  | [] => none
  | d :: cs => if c = d then some cs else none

/-- Whether a character is a space or a tab. -/
def isBlank (c : Char) : Bool := c = ' ' || c = '\t'

/-- The offset that a text is: nothing, a `Z`, or a sign with hours and perhaps minutes. -/
def offset? (cs : List Char) : Option (Option Int) :=
  if cs.isEmpty then some none
  else match cs.dropWhile isBlank with
    | ['Z'] => some (some 0)
    | sign :: digits => do
      let factor ← if sign = '+' then some (1 : Int) else if sign = '-' then some (-1) else none
      let (hours, rest) ← number? 1 2 digits
      let minutes ←
        if rest.isEmpty then some 0
        else do
          let (minutes, rest) ← number? 2 2 (← behind? ':' rest)
          if rest.isEmpty then some minutes else none
      return some (factor * (hours * 60 + minutes : Nat))
    | [] => none

/-- The time that a text is, with what stands between it and the date. -/
def time? (cs : List Char) : Option TimeText := do
  let clock ← match cs with
    | 'T' :: rest => some rest
    | 't' :: rest => some rest
    | c :: rest => if isBlank c then some (rest.dropWhile isBlank) else none
    | [] => none
  let (hour, rest) ← number? 1 2 clock
  let (minute, rest) ← number? 2 2 (← behind? ':' rest)
  let (second, rest) ← number? 2 2 (← behind? ':' rest)
  let (fraction, rest) := match rest with
    | '.' :: rest => (rest.takeWhile Char.isDigit, rest.dropWhile Char.isDigit)
    | _ => ([], rest)
  return ⟨hour, minute, second, fraction, ← offset? rest⟩

/-- The date or moment that a text is. -/
def ofText? (cs : List Char) : Option TimestampText := do
  let (year, rest) ← number? 4 4 cs
  let afterYear ← behind? '-' rest
  let (month, rest) ← number? 1 2 afterYear
  let afterMonth ← behind? '-' rest
  let (day, rest) ← number? 1 2 afterMonth
  let isWide := afterYear.length = afterMonth.length + 3 && afterMonth.length = rest.length + 2
  if rest.isEmpty then return ⟨year, month, day, isWide, none⟩
  else return ⟨year, month, day, isWide, some (← time? rest)⟩

/-- Whether a text that nothing says to be a date is one all the same: without a time, month
and day have to have two digits. -/
def isObvious (t : TimestampText) : Bool := t.isWide || t.time.isSome

/-- The millionths of a second that digits behind the point are; further digits are dropped. -/
def micro (fraction : List Char) : Nat :=
  (Numeral.read? 10 ((fraction ++ List.replicate 6 '0').take 6)).getD 0

end TimestampText
end Yaml
end Keystore
