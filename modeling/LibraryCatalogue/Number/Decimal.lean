import LibraryCatalogue.Number.Binary64

/-!
# Decimal text of numbers

* `Binary64.shortest` — the fewest decimal digits that read back as the number, the nearest such
  decimal when there are several;
* `Binary64.text` — the text of a number: positional while the decimal exponent lies between -4 and
  15, otherwise with an exponent of at least two digits;
* `readDecimal?` — the number written by a decimal text.
-/

namespace LibraryCatalogue

namespace Binary64

/-- The interval of values that round to a finite positive number, in quarters of the last place:
lower end, the number itself, upper end. -/
def quarters (x : Binary64) : Nat × Nat × Nat :=
  let m := x.significand
  let lowerGap := if x.fraction == 0 && 1 < x.exponentBits then 1 else 2
  (4 * m - lowerGap, 4 * m, 4 * m + 2)

/-- Compares `a * 2^q` with `b * 10^p`, both `a` and `b` natural. -/
def compareScaled (a : Nat) (q : Int) (b : Nat) (p : Int) : Ordering :=
  let left := a * (if 0 ≤ q then powerOfTwo q.toNat else 1) * (if p < 0 then powerOfTen (-p).toNat else 1)
  let right := b * (if 0 ≤ p then powerOfTen p.toNat else 1) * (if q < 0 then powerOfTwo (-q).toNat else 1)
  compare left right

/-- Whether the decimal `d * 10^p` rounds to the number; the ends of the interval count exactly when
the significand is even. -/
def readsBack (x : Binary64) (d : Nat) (p : Int) : Bool :=
  let (low, _, high) := x.quarters
  let q := x.exponent - 2
  let closed := x.significand % 2 == 0
  let above := match compareScaled low q d p with
    | .lt => true
    | .eq => closed
    | .gt => false
  let below := match compareScaled high q d p with
    | .gt => true
    | .eq => closed
    | .lt => false
  above && below

/-- The integer part of the number in units of `10^p`. -/
def floorAt (x : Binary64) (p : Int) : Nat :=
  let num := x.significand * (if 0 ≤ x.exponent then powerOfTwo x.exponent.toNat else 1) *
    (if p < 0 then powerOfTen (-p).toNat else 1)
  let den := (if x.exponent < 0 then powerOfTwo (-x.exponent).toNat else 1) *
    (if 0 ≤ p then powerOfTen p.toNat else 1)
  num / den

/-- Whether `d * 10^p` is at least as near to the number as `(d + 1) * 10^p`; of two equally near
neighbours the even one counts as nearer. -/
def nearerBelow (x : Binary64) (d : Nat) (p : Int) : Bool :=
  match compareScaled (2 * x.significand) x.exponent (2 * d + 1) p with
  | .lt => true
  | .eq => d % 2 == 0
  | .gt => false

/-- The decimal exponent `e` with `10^(e-1) ≤ x < 10^e`, searched upwards from a low guess. -/
def magnitudeFrom (x : Binary64) : Nat → Int → Int
  | 0, e => e
  | fuel + 1, e => if x.floorAt e == 0 then e else magnitudeFrom x fuel (e + 1)

/-- The decimal exponent `e` with `10^(e-1) ≤ x < 10^e`, for a positive number. -/
def magnitude (x : Binary64) : Int :=
  let bits : Int := (x.significand.log2 : Int) + x.exponent
  magnitudeFrom x 8 (Int.fdiv (bits * 30103) 100000 - 1)

/-- The decimal neighbour of the number that reads back, on the grid of `n` digits. -/
def onGrid? (x : Binary64) (e : Int) (n : Nat) : Option (Nat × Int) :=
  let p := e - n
  let d := x.floorAt p
  let below := x.readsBack d p
  let above := x.readsBack (d + 1) p
  if below && (!above || x.nearerBelow d p) then some (d, p)
  else if above then some (d + 1, p)
  else none

/-- The fewest digits that read back as the number, with the power of ten of the last one. -/
def shortest (x : Binary64) : Nat × Int :=
  let e := x.magnitude
  ((List.range 17).findSome? fun n => x.onGrid? e (n + 1)).getD (x.floorAt (e - 17), e - 17)

end Binary64

/-- Digits without the zeros at their end, and how many there were. -/
def stripZeros (cs : List Char) : List Char × Nat :=
  let kept := (cs.reverse.dropWhile (· == '0')).reverse
  (kept, cs.length - kept.length)

/-- The layout of a positive number: `point` is where the decimal point falls among the digits. -/
def layOut (digits : List Char) (point : Int) : List Char :=
  if -4 < point ∧ point ≤ 16 then
    if point ≤ 0 then '0' :: '.' :: List.replicate (-point).toNat '0' ++ digits
    else
      let k := point.toNat
      if digits.length ≤ k then digits ++ List.replicate (k - digits.length) '0' ++ ['.', '0']
      else digits.take k ++ '.' :: digits.drop k
  else
    let e := point - 1
    let mark := if e < 0 then '-' else '+'
    let size := Nat.toDigits 10 e.natAbs
    let size := if size.length < 2 then '0' :: size else size
    let head := match digits with
      | [d] => [d]
      | d :: ds => d :: '.' :: ds
      | [] => []
    head ++ 'e' :: mark :: size

/-- The text of a number. -/
def Binary64.text (x : Binary64) : String :=
  if x.isNaN then "nan"
  else
    let sign := if x.negative then "-" else ""
    if x.isInfinite then sign ++ "inf"
    else if x.significand == 0 then sign ++ "0.0"
    else
      let (d, p) := x.shortest
      let written := Nat.toDigits 10 d
      let (kept, dropped) := stripZeros written
      sign ++ String.ofList (layOut kept (p + dropped + kept.length))

/-- The value of a row of decimal digits. -/
def digitsValue (cs : List Char) : Nat :=
  cs.foldl (fun n c => 10 * n + (c.toNat - 48)) 0

/-- A sign and what follows it. -/
def splitSign : List Char → Bool × List Char
  | '-' :: rest => (true, rest)
  | '+' :: rest => (false, rest)
  | rest => (false, rest)

/-- An integer in decimal digits with an optional sign. -/
def readInt? (cs : List Char) : Option Int :=
  let (negative, digits) := splitSign cs
  if digits.isEmpty || !digits.all Char.isDigit then none
  else some (if negative then -(digitsValue digits : Int) else digitsValue digits)

/-- The number written by a decimal text: digits with an optional point and exponent, or the words
for infinity and for no number, in any case. -/
def readDecimal? (s : String) : Option Binary64 :=
  let (negative, cs) := splitSign s.toList
  let word := String.ofList (cs.map Char.toLower)
  if word == "inf" || word == "infinity" then some (Binary64.infinity negative)
  else if word == "nan" then some Binary64.nan
  else
    let whole := cs.takeWhile Char.isDigit
    let rest := cs.dropWhile Char.isDigit
    let (fraction, rest) := match rest with
      | '.' :: rest => (rest.takeWhile Char.isDigit, rest.dropWhile Char.isDigit)
      | _ => ([], rest)
    if whole.isEmpty && fraction.isEmpty then none
    else
      let digits := digitsValue (whole ++ fraction)
      match rest with
      | [] => some (Binary64.ofDecimal negative digits (-fraction.length))
      | e :: rest =>
        if e == 'e' || e == 'E' then
          (readInt? rest).map fun e => Binary64.ofDecimal negative digits (e - fraction.length)
        else none

end LibraryCatalogue
