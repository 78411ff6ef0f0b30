/-!
# White space, lines, digits, and sets of characters

* `isBlank` — the white space of every script;
* `isAsciiBlank` — the six blanks of ASCII;
* `trim` — a text without the white space at its ends;
* `unifyNewlines` — carriage returns, alone or before a line feed, become line feeds;
* `splitAtEach` — the parts of a text between the occurrences of a character;
* `hexValue?`, `numberOf?` — the value of a digit up to f, and the number that a row of digits writes;
* `total` — the sum of a row of numbers;
* `powerOfTwo`, `powerOfTen` — powers of the two bases in which numbers are written here;
* `CodePoints.contains` — membership in a set of code points, which is an ascending array of
  boundaries: membership begins at the first one, ends at the second, begins again at the third, and so
  on.  Looking a code point up is a binary search.
-/

namespace LibraryCatalogue

/-! ## White space -/

/-- White space: the separators, the breaking controls and the information separators. -/
def isBlank (c : Char) : Bool :=
  let n := c.toNat
  (0x09 ≤ n && n ≤ 0x0d) || (0x1c ≤ n && n ≤ 0x20) || n == 0x85 || n == 0xa0 || n == 0x1680 ||
    (0x2000 ≤ n && n ≤ 0x200a) || n == 0x2028 || n == 0x2029 || n == 0x202f || n == 0x205f ||
    n == 0x3000

/-- The blanks of ASCII: space, tabs, feeds and the carriage return. -/
def isAsciiBlank (c : Char) : Bool :=
  let n := c.toNat
  (0x09 ≤ n && n ≤ 0x0d) || n == 0x20

/-- The characters that are left when those satisfying `p` are dropped at both ends. -/
def trimBoth (p : Char → Bool) (cs : List Char) : List Char :=
  ((cs.dropWhile p).reverse.dropWhile p).reverse

/-- A text without the white space at its ends. -/
def trim (s : String) : String :=
  String.ofList (trimBoth isBlank s.toList)

/-! ## Lines and parts -/

/-- A text in which every line ends with a line feed. -/
def unifyNewlines : List Char → List Char
  | [] => []
  | '\r' :: '\n' :: rest => '\n' :: unifyNewlines rest
  | '\r' :: rest => '\n' :: unifyNewlines rest
  | c :: rest => c :: unifyNewlines rest

/-- The parts of a text between the occurrences of a separator; without one, the text itself. -/
def splitAtEach (separator : Char) (cs : List Char) : List (List Char) :=
  cs.foldr (fun c parts =>
    if c == separator then [] :: parts
    else match parts with
      | p :: rest => (c :: p) :: rest
      | [] => [[c]]) [[]]

/-! ## Digits and numbers -/

/-- The value of a digit up to f. -/
def hexValue? (c : Char) : Option Nat :=
  if c.isDigit then some (c.toNat - 48)
  else if 'a' ≤ c && c ≤ 'f' then some (c.toNat - 87)
  else if 'A' ≤ c && c ≤ 'F' then some (c.toNat - 55)
  else none

/-- The number that digits of a base write; there must be one. -/
def numberOf? (base : Nat) (digits : List Char) : Option Nat := do
  if digits.isEmpty then failure
  let values ← digits.mapM fun c => (hexValue? c).filter (· < base)
  return values.foldl (fun n v => n * base + v) 0

/-- The sum of a row of numbers. -/
def total : List Nat → Nat
  | [] => 0
  | n :: rest => n + total rest

/-- A power of two. -/
def powerOfTwo (n : Nat) : Nat := Nat.pow 2 n

/-- A power of ten. -/
def powerOfTen (n : Nat) : Nat := Nat.pow 10 n

/-! ## Sets of characters -/

/-- A set of code points, as the ascending places where membership flips. -/
structure CodePoints where
  flips : Array Nat

namespace CodePoints

/-- The number of boundaries at or below `x`, known to lie between `lo` and `hi`. -/
def boundariesUpTo (flips : Array Nat) (x lo hi : Nat) : Nat :=
  if lo < hi then
    let mid := (lo + hi) / 2
    if flips.getD mid 0 ≤ x then boundariesUpTo flips x (mid + 1) hi
    else boundariesUpTo flips x lo mid
  else lo
termination_by hi - lo
decreasing_by all_goals omega

/-- Membership: an odd number of boundaries has been passed. -/
def contains (s : CodePoints) (c : Char) : Bool :=
  boundariesUpTo s.flips c.toNat 0 s.flips.size % 2 == 1

end CodePoints

end LibraryCatalogue
