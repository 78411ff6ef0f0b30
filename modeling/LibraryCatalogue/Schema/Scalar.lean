import LibraryCatalogue.Schema.IntegerText
import LibraryCatalogue.Text.Casing
import LibraryCatalogue.Text.Utf8

/-!
# Scalars as schemas accept them

* `text`, `numericText` — texts; byte strings count by what they say in UTF-8, and numbers by their
  written form where that is allowed and where they have one;
* `nonempty`, `nullable` — restrictions and extensions of a check;
* `integer` — integers, whole floating-point numbers, and texts that say one;
* `truthValue` — truth values, the numbers 0 and 1, and a few words.
-/

namespace LibraryCatalogue.Schema

/-- A text. -/
def text : Value → Checked String
  | .text s => .ok s
  | .bytes bs =>
    match textOfUtf8? bs with
    | some s => .ok s
    | none => .fail .textNotUnicode
  | _ => .fail .notText

/-- A text, or a number by its written form; at an integer that has none the check is given up. -/
def numericText : Value → Checked String
  | .int i => if isWritableInteger i then .ok (toString i) else .error .unwritable
  | .float x => .ok x.text
  | v => text v

/-- A text of at least one character. -/
def nonempty (check : Value → Checked String) (v : Value) : Checked String := do
  let s ← check v
  if s.isEmpty then .fail .textEmpty else return s

/-- Nothing, or a value that passes a check. -/
def nullable {α : Type} (check : Value → Checked α) : Value → Checked (Option α)
  | .null => .ok none
  | v => (check v).map some

theorem nullable_of_ne_null {α : Type} (check : Value → Checked α) {v : Value} (h : v ≠ .null) :
    nullable check v = (check v).map some := by
  cases v with
  | null => exact absurd rfl h
  | _ => rfl

/-- An integer. -/
def integer : Value → Checked Int
  | .int i => .ok i
  | .bool b => .ok (if b then 1 else 0)
  | .float x =>
    if !x.isFinite then .fail .notFinite
    else
      match x.toInt? with
      | none => .fail .integerFractional
      | some i => if -limit64 < i && i < limit64 then .ok i else .fail .integerTooLarge
  | .text s => integerOfText s
  | .bytes bs =>
    match textOfUtf8? bs with
    | some s => integerOfText s
    | none => .fail .integerUnreadable
  | _ => .fail .notInteger

/-- An integer greater than zero. -/
def positive (v : Value) : Checked Int := do
  let i ← integer v
  if 0 < i then return i else .fail .notPositive

/-- The truth value that a word says, whatever the case of its ASCII letters. -/
def truthValueOfText (s : String) : Checked Bool :=
  let word := String.ofList (s.toList.map lowerAscii)
  if ["0", "off", "f", "false", "n", "no"].contains word then .ok false
  else if ["1", "on", "t", "true", "y", "yes"].contains word then .ok true
  else .fail .truthValueUnreadable

/-- The truth value that an integer stands for. -/
def truthValueOfInteger (i : Int) : Checked Bool :=
  if i == 0 then .ok false else if i == 1 then .ok true else .fail .truthValueUnreadable

/-- A truth value. -/
def truthValue : Value → Checked Bool
  | .bool b => .ok b
  | .int i => if fits64 i then truthValueOfInteger i else .fail .notTruthValue
  | .float x =>
    match x.toInt? with
    | some i => if -limit64 < i && i < limit64 then truthValueOfInteger i else .fail .notTruthValue
    | none => .fail .notTruthValue
  | .text s => truthValueOfText s
  | .bytes bs =>
    match textOfUtf8? bs with
    | some s => truthValueOfText s
    | none => .fail .truthValueUnreadable
  | _ => .fail .notTruthValue

end LibraryCatalogue.Schema
