/-!
# Bytes in groups of six bits

* `sixBits?` — the six bits that a character stands for;
* `decodeBase64` — the bytes that a text stands for.  Other characters are skipped, and nothing after
  the padding counts.
-/

namespace LibraryCatalogue

/-- The six bits that a character stands for. -/
def sixBits? (c : Char) : Option Nat :=
  if 'A' ≤ c && c ≤ 'Z' then some (c.toNat - 65)
  else if 'a' ≤ c && c ≤ 'z' then some (c.toNat - 71)
  else if c.isDigit then some (c.toNat + 4)
  else if c == '+' then some 62
  else if c == '/' then some 63
  else none

/-- The bytes of a text from a place on: `held` are the values of the characters since the last
complete group, and `pads` counts the padding since the last of them. -/
def decodeBase64From (held : List Nat) (pads : Nat) : List Char → Option (List UInt8)
  | [] => if held.isEmpty then some [] else none
  | '=' :: rest =>
    if held.length < 2 then decodeBase64From held pads rest
    else if 4 ≤ held.length + pads + 1 then some []
    else decodeBase64From held (pads + 1) rest
  | c :: rest =>
    match sixBits? c, held with
    | none, _ => decodeBase64From held pads rest
    | some v, [] => decodeBase64From [v] 0 rest
    | some v, [a] =>
      (decodeBase64From [a, v] 0 rest).map (UInt8.ofNat (a * 4 + v / 16) :: ·)
    | some v, [a, b] =>
      (decodeBase64From [a, b, v] 0 rest).map (UInt8.ofNat (b % 16 * 16 + v / 4) :: ·)
    | some v, _ :: _ :: c :: _ =>
      (decodeBase64From [] 0 rest).map (UInt8.ofNat (c % 4 * 64 + v) :: ·)

/-- The bytes that a text stands for. -/
def decodeBase64 (cs : List Char) : Option (List UInt8) :=
  decodeBase64From [] 0 cs

end LibraryCatalogue
