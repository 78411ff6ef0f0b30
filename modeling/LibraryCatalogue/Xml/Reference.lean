import LibraryCatalogue.Text.Basic
import LibraryCatalogue.Text.Utf8
import LibraryCatalogue.Xml.Name

/-!
# References

A reference stands for a character, by its number or by name, or for an entity that the document
declares.

* `Bit`, `readBits` — the characters and references that a text consists of;
* `predefined?` — the five characters that have names everywhere.
-/

namespace LibraryCatalogue.Xml

/-- A part of a text: a character as it stands, a character given by its number, or a named
reference. -/
inductive Bit where
  | plain (c : Char)
  | numbered (c : Char)
  | named (name : String)
deriving DecidableEq, Repr

/-- The characters that have names everywhere. -/
def predefined? (name : String) : Option Char :=
  [("lt", '<'), ("gt", '>'), ("amp", '&'), ("quot", '"'), ("apos", '\'')].lookup name

/-- A reference, after its ampersand. -/
def readReference (cs : List Char) : Option (Piece Bit) := do
  match cs with
  | '#' :: rest =>
    let (digits, after) ← upToWord? [';'] rest
    let n ← match digits with
      | 'x' :: digits => numberOf? 16 digits
      | digits => numberOf? 10 digits
    let c ← charBetween? 0 n
    if isMarkupChar c then return (.numbered c, after) else failure
  | cs =>
    let (name, rest) ← readName cs
    match rest with
    | ';' :: after => return (.named name, after)
    | _ => failure

/-- The parts of a text; the first argument bounds their number. -/
def readBitsFrom : Nat → List Char → Option (List Bit)
  | _, [] => some []
  | 0, _ => none
  | fuel + 1, '&' :: rest => do
    let (r, rest) ← readReference rest
    (readBitsFrom fuel rest).map (r :: ·)
  | fuel + 1, c :: rest => (readBitsFrom fuel rest).map (.plain c :: ·)

/-- The parts of a text. -/
def readBits (cs : List Char) : Option (List Bit) :=
  readBitsFrom cs.length cs

end LibraryCatalogue.Xml
