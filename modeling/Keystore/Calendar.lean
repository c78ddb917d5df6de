/-
# Dates and moments

A date of the years 1 to 9999, and a moment: a date with a time of day and, where it is known,
how far that time is ahead of universal time.
-/
import Keystore.Text.Numeral

namespace Keystore

/-- Why numbers make no date or moment. -/
inductive CalendarFault where
  /-- The year is not one of 1 to 9999. -/
  | year (n : Nat)
  | month
  | day
  | hour
  | minute
  | second
  /-- The offset, in minutes, is a day or more. -/
  | offset (minutes : Int)
deriving DecidableEq, Repr

/-- A day of the calendar. -/
structure Date where
  year : Nat
  month : Nat
  day : Nat
deriving DecidableEq, Repr

/-- A moment of a day. -/
structure Moment where
  date : Date
  hour : Nat
  minute : Nat
  second : Nat
  /-- The millionth of the second. -/
  micro : Nat
  /-- The minutes by which the time is ahead of universal time, if that is known. -/
  offset : Option Int
deriving DecidableEq, Repr

namespace Date

/-- Whether a year has a day more. -/
def isLeap (year : Nat) : Bool := year % 4 = 0 && (year % 100 ≠ 0 || year % 400 = 0)

/-- The number of days of a month. -/
def daysIn (year month : Nat) : Nat :=
  if month = 2 then if isLeap year then 29 else 28
  else if month = 4 ∨ month = 6 ∨ month = 9 ∨ month = 11 then 30
  else 31

/-- The day of the given numbers; the year is looked at first and the day last. -/
def ofNumbers (year month day : Nat) : Except CalendarFault Date :=
  if year < 1 ∨ 9999 < year then .error (.year year)
  else if month < 1 ∨ 12 < month then .error .month
  else if day < 1 ∨ daysIn year month < day then .error .day
  else .ok ⟨year, month, day⟩

/-- The days from the first day of year 1 to this one. -/
def ordinal (d : Date) : Nat :=
  let years := d.year - 1
  years * 365 + years / 4 - years / 100 + years / 400 +
    ((List.range (d.month - 1)).map fun m => daysIn d.year (m + 1)).foldl (· + ·) 0 + d.day - 1

/-- Year, month and day with dashes between them. -/
def render (d : Date) : String :=
  Numeral.padded 10 4 d.year ++ "-" ++ Numeral.padded 10 2 d.month ++ "-" ++
    Numeral.padded 10 2 d.day

/-- The numbers of a date, as a list of arguments. -/
def arguments (d : Date) : String :=
  Numeral.padded 10 1 d.year ++ ", " ++ Numeral.padded 10 1 d.month ++ ", " ++
    Numeral.padded 10 1 d.day

/-- A date as it is shown inside a list. -/
def literal (d : Date) : String := "datetime.date(" ++ d.arguments ++ ")"

end Date

/-- An offset as a span of time: days, and seconds that are not negative. -/
def spanText (minutes : Int) : String :=
  let days := Int.fdiv minutes 1440
  let seconds := Int.fmod minutes 1440 * 60
  let parts := (if days = 0 then [] else ["days=" ++ Numeral.ofInt days]) ++
    (if seconds = 0 then [] else ["seconds=" ++ Numeral.ofInt seconds])
  "datetime.timedelta(" ++ (if parts.isEmpty then "0" else ", ".intercalate parts) ++ ")"

/-- The wording of a fault. -/
def CalendarFault.message : CalendarFault → String
  | year n => "year " ++ Numeral.padded 10 1 n ++ " is out of range"
  | month => "month must be in 1..12"
  | day => "day is out of range for month"
  | hour => "hour must be in 0..23"
  | minute => "minute must be in 0..59"
  | second => "second must be in 0..59"
  | offset minutes =>
    "offset must be a timedelta strictly between -timedelta(hours=24) and timedelta(hours=24), not "
      ++ spanText minutes ++ "."

namespace Moment

/-- The moment of the given numbers.  The offset is looked at first, then the date, then the
time from the hour on. -/
def ofNumbers (year month day hour minute second micro : Nat) (offset : Option Int) :
    Except CalendarFault Moment := do
  if let some minutes := offset then
    if minutes ≤ -1440 ∨ 1440 ≤ minutes then throw (.offset minutes)
  let date ← Date.ofNumbers year month day
  if 23 < hour then throw .hour
  if 59 < minute then throw .minute
  if 59 < second then throw .second
  return ⟨date, hour, minute, second, micro, offset⟩

/-- The millionths of a second from the first moment of year 1 to this one, on the clock that
the moment is read from. -/
def ticks (m : Moment) : Int :=
  (((m.date.ordinal * 24 + m.hour) * 60 + m.minute) * 60 + m.second : Nat) * 1000000 + m.micro

/-- The same on the clock of universal time, if the offset is known. -/
def universalTicks? (m : Moment) : Option Int :=
  m.offset.map fun minutes => m.ticks - minutes * 60000000

/-- An offset with its sign, hours and minutes. -/
def offsetText (minutes : Int) : String :=
  (if minutes < 0 then "-" else "+") ++ Numeral.padded 10 2 (minutes.natAbs / 60) ++ ":" ++
    Numeral.padded 10 2 (minutes.natAbs % 60)

/-- The date and the time, with millionths of the second if there are any, and with the offset
if it is known. -/
def render (m : Moment) : String :=
  m.date.render ++ " " ++ Numeral.padded 10 2 m.hour ++ ":" ++ Numeral.padded 10 2 m.minute ++
    ":" ++ Numeral.padded 10 2 m.second ++
    (if m.micro = 0 then "" else "." ++ Numeral.padded 10 6 m.micro) ++
    (m.offset.map offsetText).getD ""

/-- An offset as it is shown inside a list. -/
def zoneLiteral (minutes : Int) : String :=
  if minutes = 0 then "datetime.timezone.utc"
  else "datetime.timezone(" ++ spanText minutes ++ ")"

/-- A moment as it is shown inside a list; seconds and their parts are left out if they are
zero. -/
def literal (m : Moment) : String :=
  let tail :=
    if m.micro ≠ 0 then [m.hour, m.minute, m.second, m.micro]
    else if m.second ≠ 0 then [m.hour, m.minute, m.second]
    else [m.hour, m.minute]
  let numbers := tail.map (Numeral.padded 10 1)
  "datetime.datetime(" ++ ", ".intercalate (m.date.arguments :: numbers) ++
    (m.offset.map fun minutes => ", tzinfo=" ++ zoneLiteral minutes).getD "" ++ ")"

end Moment
end Keystore
