import LibraryCatalogue.Number.Decimal
import LibraryCatalogue.Text.Basic
import LibraryCatalogue.Text.Casing
import LibraryCatalogue.Text.Word
import LibraryCatalogue.Yaml.Cursor

/-!
# Numbers in documents

Integers are written in binary, octal, decimal or hexadecimal digits or as groups of sixties, and
numbers with a point in decimal digits or as groups of sixties with a fraction.  Low lines between
digits do not count.

* `isInteger`, `isFloat` — which plain scalars are numbers;
* `readInteger`, `readFloat` — the number that a scalar says when it is known to be one.
-/

namespace LibraryCatalogue.Yaml

/-- A digit or a low line. -/
def isSpacedDigit (c : Char) : Bool :=
  c.isDigit || c == '_'

/-- A digit, followed by digits and low lines. -/
def isSpacedDigits : List Char → Bool
  | [] => false
  | c :: rest => c.isDigit && rest.all isSpacedDigit

/-- A number below sixty in one or two digits. -/
def isSixtieth : List Char → Bool
  | [b] => b.isDigit
  | [a, b] => '0' ≤ a && a ≤ '5' && b.isDigit
  | _ => false

/-- Whether a plain scalar is an integer. -/
def isInteger (cs : List Char) : Bool :=
  match (splitSign cs).2 with
  | '0' :: 'b' :: rest => !rest.isEmpty && rest.all fun c => c == '0' || c == '1' || c == '_'
  | '0' :: 'x' :: rest => !rest.isEmpty && rest.all fun c => (hexValue? c).isSome || c == '_'
  | '0' :: rest => rest.all fun c => ('0' ≤ c && c ≤ '7') || c == '_'
  | digits =>
    match splitAtEach ':' digits with
    | first :: groups => isSpacedDigits first && groups.all isSixtieth
    | [] => false

/-- Nothing, or an exponent with its sign. -/
def isSignedExponent : List Char → Bool
  | [] => true
  | e :: sign :: digits =>
    (e == 'e' || e == 'E') && (sign == '-' || sign == '+') && !digits.isEmpty &&
      digits.all Char.isDigit
  | _ => false

/-- Digits and low lines after a point, and possibly an exponent. -/
def isFraction (cs : List Char) : Bool :=
  isSignedExponent (cs.dropWhile isSpacedDigit)

/-- Groups of sixties, the last with a fraction. -/
def isSixtiesWithFraction (cs : List Char) : Bool :=
  match splitAtEach ':' cs with
  | first :: second :: more =>
    let last := (second :: more).getLast (by simp)
    isSpacedDigits first && ((second :: more).dropLast.all isSixtieth) &&
      isSixtieth (last.takeWhile (· != '.')) &&
      match last.dropWhile (· != '.') with
      | '.' :: rest => rest.all isSpacedDigit
      | _ => false
  | _ => false

/-- Whether a plain scalar is a number with a point. -/
def isFloat (cs : List Char) : Bool :=
  let digits := (splitSign cs).2
  let whole := digits.takeWhile (· != '.')
  match digits.dropWhile (· != '.') with
  | '.' :: rest =>
    let word := String.ofList rest
    if whole.isEmpty then
      ["inf", "Inf", "INF"].contains word ||
        (digits.length == cs.length && (["nan", "NaN", "NAN"].contains word ||
          (rest.head?.any Char.isDigit && isFraction rest)))
    else (isSpacedDigits whole && isFraction rest) || isSixtiesWithFraction digits
  | _ => false

/-- The letter that may stand behind a zero in front of digits of a base. -/
def baseLetter? : Nat → Option Char
  | 2 => some 'b'
  | 8 => some 'o'
  | 16 => some 'x'
  | _ => none

/-- The value of a digit: of a decimal digit of any script, or of a letter. -/
def digitIn? (base : Nat) (c : Char) : Option Nat :=
  ((digitValue? c).or (hexValue? c)).filter (· < base)

/-- The digits without the mark of their base. -/
def dropBaseMark (base : Nat) : List Char → List Char
  | '0' :: c :: rest => if some (lowerAscii c) == baseLetter? base then rest else '0' :: c :: rest
  | cs => cs

/-- The greatest number of decimal digits that an integer may be written with. -/
def integerDigitLimit : Nat := 4300

/-- The integer written by digits of a base, between white space and behind a sign. -/
def integerIn (base : Nat) (cs : List Char) : Except Fault Int := do
  let (negative, digits) := splitSign (trimBoth isBlank cs)
  let digits := dropBaseMark base digits
  if digits.isEmpty || (base == 10 && integerDigitLimit < digits.length) then throw .noSuchValue
  match digits.mapM (digitIn? base) with
  | none => throw .noSuchValue
  | some values =>
    let n := values.foldl (fun n v => n * base + v) 0
    return if negative then -(n : Int) else n

/-- The integer without sign that a scalar says. -/
def magnitude (digits : List Char) : Except Fault Int :=
  match digits with
  | [] => .error .noDigits
  | ['0'] => .ok 0
  | '0' :: 'b' :: rest => integerIn 2 rest
  | '0' :: 'x' :: rest => integerIn 16 rest
  | '0' :: _ => integerIn 8 digits
  | _ => do
    let groups ← (splitAtEach ':' digits).mapM (integerIn 10)
    return groups.foldl (fun n g => n * 60 + g) 0

/-- The integer that a scalar says. -/
def readInteger (cs : List Char) : Except Fault Int := do
  let (negative, digits) := splitSign (cs.filter (· != '_'))
  let n ← magnitude digits
  return if negative then -n else n

/-- The number that decimal digits of any script write, between white space. -/
def floatOf (cs : List Char) : Except Fault Binary64 :=
  let plain := (trimBoth isBlank cs).map fun c =>
    match digitValue? c with
    | some v => Char.ofNat (48 + v)
    | none => c
  match readDecimal? (String.ofList plain) with
  | some x => .ok x
  | none => .error .noSuchValue

/-- The sum of groups of sixties, smallest first; `unit` is what the first of them counts. -/
def sumSixties : Nat → Binary64 → List Binary64 → Except Fault Binary64
  | _, sum, [] => .ok sum
  | unit, sum, g :: rest =>
    if 1024 ≤ unit.log2 then .error .tooLarge
    else sumSixties (unit * 60) (sum.add (g.mul (Binary64.ofInt unit))) rest

/-- The number that a scalar says. -/
def readFloat (cs : List Char) : Except Fault Binary64 := do
  let kept := (lowerText (String.ofList (cs.filter (· != '_')))).toList
  if kept.isEmpty then throw .noDigits
  let (negative, digits) := splitSign kept
  let x ←
    if digits == ".inf".toList then pure (Binary64.infinity false)
    else if digits == ".nan".toList then pure Binary64.nan
    else
      match splitAtEach ':' digits with
      | _ :: _ :: _ => do
        let groups ← (splitAtEach ':' digits).mapM floatOf
        sumSixties 1 (Binary64.ofInt 0) groups.reverse
      | _ => floatOf digits
  return if negative && !x.isNaN then x.neg else x

end LibraryCatalogue.Yaml
