/-!
# UTF-8

* `decodeUtf8` — the text written by a list of bytes; refuses stray and missing continuation
  bytes, forms that are longer than needed, surrogates and values past the last code point.
-/

namespace LibraryCatalogue

/-- The payload of a continuation byte. -/
def continuation? (b : UInt8) : Option Nat :=
  if 0x80 ≤ b ∧ b < 0xc0 then some (b.toNat - 0x80) else none

/-- The character with code point `n`, when `n` lies in `low`, … and is one. -/
def charBetween? (low n : Nat) : Option Char :=
  if low ≤ n then
    if h : n.isValidChar then some (Char.ofNatAux n h) else none
  else none

/-- The characters written by a list of bytes, or nothing when the bytes are not UTF-8. -/
def decodeUtf8 : List UInt8 → Option (List Char)
  | [] => some []
  | a :: rest =>
    if a < 0x80 then
      (decodeUtf8 rest).map (Char.ofNat a.toNat :: ·)
    else if a < 0xe0 then
      match rest with
      | b :: rest => do
        if a < 0xc0 then none
        let c ← charBetween? 0x80 ((a.toNat - 0xc0) * 64 + (← continuation? b))
        (decodeUtf8 rest).map (c :: ·)
      | _ => none
    else if a < 0xf0 then
      match rest with
      | b :: b' :: rest => do
        let c ← charBetween? 0x800
          (((a.toNat - 0xe0) * 64 + (← continuation? b)) * 64 + (← continuation? b'))
        (decodeUtf8 rest).map (c :: ·)
      | _ => none
    else
      match rest with
      | b :: b' :: b'' :: rest => do
        let c ← charBetween? 0x10000
          ((((a.toNat - 0xf0) * 64 + (← continuation? b)) * 64 + (← continuation? b')) * 64 +
            (← continuation? b''))
        (decodeUtf8 rest).map (c :: ·)
      | _ => none

/-- The text written by a list of bytes. -/
def textOfUtf8? (bytes : List UInt8) : Option String :=
  (decodeUtf8 bytes).map String.ofList

end LibraryCatalogue
