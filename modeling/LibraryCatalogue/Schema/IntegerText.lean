import LibraryCatalogue.Schema.Check
import LibraryCatalogue.Text.Basic

/-!
# Integers as schemas read them

An integer may be written with white space around it, a sign, zeros in front, single low lines
between its digits, and a point with zeros behind it.  All of that is taken away first; what is left
is a plain integer or no number at all.

* `dropLeadingZeros`, `dropZeroFraction`, `dropLowLines` — what is taken away;
* `plainInteger` — a plain integer: a minus sign or none, and digits without a zero in front;
* `integerOfText` — the integer that a text says.
-/

namespace LibraryCatalogue.Schema

/-- White space around a number: that of every script, without the information separators. -/
def isNumberBlank (c : Char) : Bool :=
  isBlank c && !(0x1c ≤ c.toNat && c.toNat ≤ 0x1f)

/-- A text without a plus sign in front; none when another sign follows it. -/
def dropPlus : List Char → Option (List Char)
  | '+' :: '-' :: _ => none
  | '+' :: rest => some rest
  | cs => some cs

/-- What stands behind zeros, among which low lines do not count: the text from the first other
digit on.  `last` is the last of the zeros, which stays before a point and at the end. -/
def afterZeros (last : Char) : List Char → Option (List Char)
  | [] => some [last]
  | c :: rest =>
    if c == '0' || c == '_' then afterZeros c rest
    else if c.isDigit then some (c :: rest)
    else if c == '.' then some (last :: c :: rest)
    else none

/-- A text without the zeros in front; none when it begins with neither a digit nor a minus sign.
Behind a minus sign zeros stay. -/
def dropLeadingZeros : List Char → Option (List Char)
  | [] => none
  | c :: rest =>
    if c == '0' then afterZeros c rest
    else if c.isDigit || c == '-' then some (c :: rest)
    else none

/-- A text without a point behind which there are zeros only. -/
def dropZeroFraction (cs : List Char) : List Char :=
  let zeros := (cs.dropWhile (· != '.')).tail
  if !zeros.isEmpty && zeros.all (· == '0') then cs.takeWhile (· != '.') else cs

/-- Whether two low lines stand next to each other. -/
def hasDoubleLowLine : List Char → Bool
  | a :: b :: rest => (a == '_' && b == '_') || hasDoubleLowLine (b :: rest)
  | _ => false

/-- A text without its low lines; they stay when one is at an end or next to another. -/
def dropLowLines (cs : List Char) : List Char :=
  if cs.head? == some '_' || cs.getLast? == some '_' || hasDoubleLowLine cs then cs
  else cs.filter (· != '_')

/-- The greatest number of characters that a plain integer may have. -/
def integerLengthLimit : Nat := 4300

/-- A plain integer. -/
def plainInteger (cs : List Char) : Checked Int :=
  let negative := cs.head? == some '-'
  let rest := if negative then cs.tail else cs
  let digits := rest.takeWhile Char.isDigit
  if digits.isEmpty || (digits.head? == some '0' && 1 < digits.length) then
    .fail .integerUnreadable
  else if integerLengthLimit < (if negative then 1 else 0) + digits.length then
    .fail .integerTooLarge
  else if digits.length != rest.length then .fail .integerUnreadable
  else
    let n : Int := digitsValue digits
    .ok (if negative then -n else n)

/-- The integer that a text says. -/
def integerOfText (s : String) : Checked Int :=
  match (dropPlus (trimBoth isNumberBlank s.toList)).bind dropLeadingZeros with
  | some cs => plainInteger (dropLowLines (dropZeroFraction cs))
  | none => .fail .integerUnreadable

/-! ## Digits alone -/

theorem dropLeadingZeros_of_isDigit {c : Char} (digit : c.isDigit = true) (nonzero : c ≠ '0')
    (rest : List Char) : dropLeadingZeros (c :: rest) = some (c :: rest) := by
  simp [dropLeadingZeros, digit, nonzero]

theorem dropWhile_ne_point_of_digits {cs : List Char} (digits : ∀ c ∈ cs, c.isDigit = true) :
    cs.dropWhile (· != '.') = [] := by
  induction cs with
  | nil => rfl
  | cons c rest ih =>
    have digit := digits c (by simp)
    have notPoint : c ≠ '.' := by
      rintro rfl
      revert digit
      decide
    simp [notPoint, ih fun d mem => digits d (by simp [mem])]

theorem dropZeroFraction_of_digits {cs : List Char} (digits : ∀ c ∈ cs, c.isDigit = true) :
    dropZeroFraction cs = cs := by
  simp [dropZeroFraction, dropWhile_ne_point_of_digits digits]

theorem dropLowLines_of_digits {cs : List Char} (digits : ∀ c ∈ cs, c.isDigit = true) :
    dropLowLines cs = cs := by
  have keeps : cs.filter (· != '_') = cs := by
    rw [List.filter_eq_self]
    intro c mem
    have digit := digits c mem
    simp only [bne_iff_ne, ne_eq]
    rintro rfl
    revert digit
    decide
  unfold dropLowLines
  split
  · rfl
  · exact keeps

end LibraryCatalogue.Schema
