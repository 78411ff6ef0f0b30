import LibraryCatalogue.Calendar
import LibraryCatalogue.Number.Decimal
import LibraryCatalogue.Value.Basic
import LibraryCatalogue.Yaml.Cursor

/-!
# Dates and moments in documents

* `Written`, `readWritten?` — a date, and a time of day with its offset, as they are written;
* `isMoment` — which plain scalars are dates or moments;
* `readMoment` — the date or moment that a scalar says.
-/

namespace LibraryCatalogue.Yaml

/-- A time of day as it is written: the digits of the fraction, and the offset in seconds. -/
structure Clock where
  hour : Nat
  minute : Nat
  second : Nat
  fraction : List Char
  offset : Option Int
deriving Repr

/-- A date as it is written, and the time of day behind it. -/
structure Written where
  date : Date
  /-- Whether month and day have two digits each. -/
  full : Bool
  clock : Option Clock
deriving Repr

/-- One or two digits, and what follows them. -/
def upToTwoDigits? : List Char → Option (List Char × List Char)
  | a :: b :: rest =>
    if a.isDigit && b.isDigit then some ([a, b], rest)
    else if a.isDigit then some ([a], b :: rest)
    else none
  | [a] => if a.isDigit then some ([a], []) else none
  | [] => none

/-- Two digits, and what follows them. -/
def twoDigits? (cs : List Char) : Option (Nat × List Char) :=
  match upToTwoDigits? cs with
  | some ([a, b], rest) => some (digitsValue [a, b], rest)
  | _ => none

/-- What follows a character. -/
def after? (c : Char) (cs : List Char) : Option (List Char) :=
  match cs with
  | d :: rest => if d == c then some rest else none
  | [] => none

/-- An offset at the end of a text, in seconds. -/
def readOffset? (cs : List Char) : Option (Option Int) :=
  match cs with
  | [] => some none
  | _ =>
    match cs.dropWhile isInlineGap with
    | ['Z'] => some (some 0)
    | sign :: rest =>
      if sign != '+' && sign != '-' then none
      else do
        let (hours, rest) ← upToTwoDigits? rest
        let minutes ← match rest with
          | [] => some 0
          | _ => do
            let (minutes, rest) ← twoDigits? (← after? ':' rest)
            if rest.isEmpty then some minutes else none
        let seconds : Int := digitsValue hours * 3600 + minutes * 60
        return some (if sign == '-' then -seconds else seconds)
    | [] => none

/-- A time of day at the end of a text. -/
def readClock? (cs : List Char) : Option Clock := do
  let (hour, rest) ← upToTwoDigits? cs
  let (minute, rest) ← twoDigits? (← after? ':' rest)
  let (second, rest) ← twoDigits? (← after? ':' rest)
  let (fraction, rest) := match rest with
    | '.' :: rest => (rest.takeWhile Char.isDigit, rest.dropWhile Char.isDigit)
    | _ => ([], rest)
  return ⟨digitsValue hour, minute, second, fraction, ← readOffset? rest⟩

/-- A text without a line break at its end. -/
def dropFinalBreak (cs : List Char) : List Char :=
  if cs.getLast? == some '\n' then cs.dropLast else cs

/-- A date, with a time of day behind the letter T or blanks. -/
def readWritten? (cs : List Char) : Option Written := do
  let cs := dropFinalBreak cs
  let year := cs.take 4
  if year.length != 4 || !year.all Char.isDigit then failure
  let (month, rest) ← upToTwoDigits? (← after? '-' (cs.drop 4))
  let (day, rest) ← upToTwoDigits? (← after? '-' rest)
  let date : Date := ⟨digitsValue year, digitsValue month, digitsValue day⟩
  let clock ← match rest with
    | [] => some none
    | c :: more =>
      if c == 'T' || c == 't' then (readClock? more).map some
      else if isInlineGap c then (readClock? (more.dropWhile isInlineGap)).map some
      else none
  return ⟨date, month.length == 2 && day.length == 2, clock⟩

/-- Whether a plain scalar is a date or a moment. -/
def isMoment (cs : List Char) : Bool :=
  match readWritten? cs with
  | some w => w.full || w.clock.isSome
  | none => false

/-- The microseconds that the digits of a fraction say; only six of them count. -/
def microseconds (fraction : List Char) : Nat :=
  let digits := fraction.take 6
  digitsValue (digits ++ List.replicate (6 - digits.length) '0')

/-- The date or moment that a scalar says. -/
def readMoment (cs : List Char) : Except Fault Value :=
  match readWritten? cs with
  | none => .error .notMoment
  | some w =>
    match w.clock with
    | none => if w.date.isValid then .ok (.date w.date) else .error .noSuchValue
    | some c =>
      let t : Moment := ⟨w.date, c.hour, c.minute, c.second, microseconds c.fraction, c.offset⟩
      if t.isValid then .ok (.moment t) else .error .noSuchValue

end LibraryCatalogue.Yaml
