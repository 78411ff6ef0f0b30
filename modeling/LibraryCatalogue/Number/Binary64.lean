import LibraryCatalogue.Text.Basic

/-!
# Binary floating-point numbers of 64 bits

A number is its 64 bits; finite ones are read as `(-1)^sign * significand * 2^exponent` in exact
arithmetic, so that printing, rounding and comparing never go through approximate operations.

* `Binary64.significand`, `Binary64.exponent` — the exact value of a finite number;
* `Binary64.ofRatio` — the nearest number to a quotient, ties to the even significand;
* `Binary64.ofDecimal` — the nearest number to `digits * 10^exponent`;
* `Binary64.toInt?` — the integer a number is equal to.
-/

namespace LibraryCatalogue

/-- A floating-point number, as its sign bit, eleven exponent bits and 52 fraction bits. -/
structure Binary64 where
  bits : UInt64
deriving DecidableEq, Repr, Inhabited

namespace Binary64

/-- The sign bit. -/
def negative (x : Binary64) : Bool :=
  x.bits >>> 63 == 1

/-- The exponent bits. -/
def exponentBits (x : Binary64) : Nat :=
  ((x.bits >>> 52) &&& 0x7ff).toNat

/-- The fraction bits. -/
def fraction (x : Binary64) : Nat :=
  (x.bits &&& 0xfffffffffffff).toNat

def isNaN (x : Binary64) : Bool :=
  x.exponentBits == 0x7ff && x.fraction != 0

def isInfinite (x : Binary64) : Bool :=
  x.exponentBits == 0x7ff && x.fraction == 0

def isFinite (x : Binary64) : Bool :=
  x.exponentBits != 0x7ff

/-- The bit of a significand that is not written. -/
def hiddenBit : Nat := powerOfTwo 52

/-- The significand of a finite number: with the hidden bit unless the number is subnormal. -/
def significand (x : Binary64) : Nat :=
  if x.exponentBits == 0 then x.fraction else hiddenBit + x.fraction

/-- The power of two that the significand is multiplied by. -/
def exponent (x : Binary64) : Int :=
  if x.exponentBits == 0 then -1074 else (x.exponentBits : Int) - 1075

def infinity (negative : Bool) : Binary64 :=
  ⟨if negative then 0xfff0000000000000 else 0x7ff0000000000000⟩

def nan : Binary64 :=
  ⟨0x7ff8000000000000⟩

/-- The number with this sign and these remaining 63 bits. -/
def ofMagnitude (negative : Bool) (magnitude : Nat) : Binary64 :=
  ⟨(if negative then 0x8000000000000000 else 0) + magnitude.toUInt64⟩

/-- The quotient of `num` and `den` rounded to an integer, a tie to the even one. -/
def roundHalfEven (num den : Nat) : Nat :=
  let q := num / den
  let r := num % den
  if 2 * r < den then q
  else if den < 2 * r then q + 1
  else if q % 2 == 0 then q else q + 1

/-- The quotient `num / den` in units of `2^e`, as a new numerator and denominator. -/
def scaled (num den : Nat) (e : Int) : Nat × Nat :=
  if 0 ≤ e then (num, den * powerOfTwo e.toNat) else (num * powerOfTwo (-e).toNat, den)

/-- The nearest number to `num / den`, ties to the even significand; `den` is not zero. -/
def ofRatio (negative : Bool) (num den : Nat) : Binary64 :=
  if num == 0 then ofMagnitude negative 0
  else
    let guess : Int := (num.log2 : Int) - (den.log2 : Int) - 52
    let (n, d) := scaled num den guess
    let unit : Int := if n / d < hiddenBit then guess - 1 else guess
    let unit := max unit (-1074)
    let (n, d) := scaled num den unit
    let rounded := roundHalfEven n d
    let magnitude : Int := (rounded : Int) + (unit + 1074) * hiddenBit
    if magnitude < 0x7ff0000000000000 then ofMagnitude negative magnitude.toNat
    else infinity negative

/-- The nearest number to `digits * 10^exponent`.  Exponents far outside the range are cut short:
beyond them every nonzero result is infinite or zero. -/
def ofDecimal (negative : Bool) (digits : Nat) (exponent : Int) : Binary64 :=
  let size : Int := ((Nat.toDigits 10 digits).length : Int) + exponent
  if digits == 0 || size < -400 then ofMagnitude negative 0
  else if 400 < size then infinity negative
  else if 0 ≤ exponent then ofRatio negative (digits * powerOfTen exponent.toNat) 1
  else ofRatio negative digits (powerOfTen (-exponent).toNat)

/-- The nearest number to an integer. -/
def ofInt (i : Int) : Binary64 :=
  ofDecimal (i < 0) i.natAbs 0

/-- The integer a number is equal to. -/
def toInt? (x : Binary64) : Option Int :=
  if !x.isFinite then none
  else
    let sign : Int := if x.negative then -1 else 1
    if 0 ≤ x.exponent then some (sign * (x.significand * powerOfTwo x.exponent.toNat : Nat))
    else
      let unit := powerOfTwo (-x.exponent).toNat
      if x.significand % unit == 0 then some (sign * (x.significand / unit : Nat)) else none

/-- Equality as numbers: both zeros are equal, and nothing is equal to a NaN. -/
def sameNumber (x y : Binary64) : Bool :=
  !x.isNaN && !y.isNaN && (x == y || (x.significand == 0 && y.significand == 0 &&
    x.isFinite && y.isFinite))

/-- The correctly rounded sum. -/
def add (x y : Binary64) : Binary64 :=
  ⟨(Float.ofBits x.bits + Float.ofBits y.bits).toBits⟩

/-- The correctly rounded product. -/
def mul (x y : Binary64) : Binary64 :=
  ⟨(Float.ofBits x.bits * Float.ofBits y.bits).toBits⟩

/-- The number with the opposite sign. -/
def neg (x : Binary64) : Binary64 :=
  ⟨x.bits ^^^ 0x8000000000000000⟩

end Binary64

end LibraryCatalogue
