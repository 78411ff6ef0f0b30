import LibraryCatalogue.Text.Basic

/-!
# Dates and moments

* `Date`, `Moment` — a day of the Gregorian calendar, and a time of day on it, with an offset from
  universal time when one is known;
* `Date.isValid`, `Moment.isValid` — the ranges of the fields;
* `Date.text`, `Moment.text` — year first, with dashes and colons, fraction only when present;
* `Moment.sameInstant` — equality of moments: by instant when both offsets are known.
-/

namespace LibraryCatalogue

/-- A day of the calendar. -/
structure Date where
  year : Nat
  month : Nat
  day : Nat
deriving DecidableEq, Repr

/-- A time of day, with its offset from universal time in seconds when one is known. -/
structure Moment where
  date : Date
  hour : Nat
  minute : Nat
  second : Nat
  microsecond : Nat
  offset : Option Int
deriving DecidableEq, Repr

/-- A natural number in decimal digits, with leading zeros up to the given width. -/
def padded (width n : Nat) : String :=
  let digits := Nat.toDigits 10 n
  String.ofList (List.replicate (width - digits.length) '0' ++ digits)

namespace Date

/-- Whether a year has a leap day. -/
def isLeap (year : Nat) : Bool :=
  year % 4 == 0 && (year % 100 != 0 || year % 400 == 0)

/-- The number of days of a month. -/
def monthLength (year month : Nat) : Nat :=
  if month == 2 then (if isLeap year then 29 else 28)
  else if month == 4 || month == 6 || month == 9 || month == 11 then 30
  else 31

/-- Years run from 1 to 9999. -/
def isValid (d : Date) : Bool :=
  1 ≤ d.year && d.year ≤ 9999 && 1 ≤ d.month && d.month ≤ 12 && 1 ≤ d.day &&
    d.day ≤ monthLength d.year d.month

/-- Year, month and day, joined by dashes. -/
def text (d : Date) : String :=
  padded 4 d.year ++ "-" ++ padded 2 d.month ++ "-" ++ padded 2 d.day

/-- The number of days since the start of year 1. -/
def dayNumber (d : Date) : Nat :=
  let y := d.year - 1
  let months := (List.range (d.month - 1)).map fun m => monthLength d.year (m + 1)
  y * 365 + y / 4 - y / 100 + y / 400 + total months + d.day

end Date

/-- An offset from universal time: sign, hours and minutes. -/
def offsetText (offset : Int) : String :=
  let minutes := offset.natAbs / 60
  let seconds := offset.natAbs % 60
  (if offset < 0 then "-" else "+") ++ padded 2 (minutes / 60) ++ ":" ++ padded 2 (minutes % 60) ++
    (if seconds == 0 then "" else ":" ++ padded 2 seconds)

namespace Moment

/-- The fields lie in their ranges, and an offset is less than a day. -/
def isValid (t : Moment) : Bool :=
  t.date.isValid && t.hour < 24 && t.minute < 60 && t.second < 60 && t.microsecond < 1000000 &&
    (t.offset.all fun o => o.natAbs < 86400)

/-- The time of day, with a fraction of six digits when it is not zero. -/
def clockText (t : Moment) : String :=
  padded 2 t.hour ++ ":" ++ padded 2 t.minute ++ ":" ++ padded 2 t.second ++
    (if t.microsecond == 0 then "" else "." ++ padded 6 t.microsecond)

/-- Date and time joined by `separator`, then the offset. -/
def textWith (t : Moment) (separator : String) : String :=
  t.date.text ++ separator ++ t.clockText ++ (t.offset.map offsetText).getD ""

/-- Date and time joined by the letter T, then the offset. -/
def text (t : Moment) : String :=
  t.textWith "T"

/-- Microseconds since the start of year 1, by the clock of the moment itself. -/
def clockMicroseconds (t : Moment) : Int :=
  (((t.date.dayNumber * 24 + t.hour) * 60 + t.minute) * 60 + t.second) * 1000000 + t.microsecond

/-- Equality of moments: of instants when both offsets are known, of clocks when neither is. -/
def sameInstant (a b : Moment) : Bool :=
  match a.offset, b.offset with
  | some x, some y =>
    a.clockMicroseconds - x * 1000000 == b.clockMicroseconds - y * 1000000
  | none, none => a == b
  | _, _ => false

end Moment

end LibraryCatalogue
