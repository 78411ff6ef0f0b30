import LibraryCatalogue.Text.Basic
import LibraryCatalogue.Text.NameTable

/-!
# Characters by their names

Most names are listed.  Those of some ideographs end in the code, and those of syllables are put
together from the letters of the syllable.

* `NameRun`, `nameRuns` — the listed names;
* `ideographNamed?`, `syllableNamed?`, `codeAtEnd?` — the names that are made;
* `characterNamed?` — the character that a name stands for.
-/

namespace LibraryCatalogue

/-- The names of characters whose codes follow one another: a stem, and what each name adds to it. -/
structure NameRun where
  first : Nat
  stem : String
  ends : List String

namespace NameRun

/-- The run that a text writes. -/
def ofText? (s : String) : Option NameRun :=
  match s.splitOn ":" with
  | [first, stem, ends] => (numberOf? 16 first.toList).map (⟨·, stem, ends.splitOn ","⟩)
  | _ => none

/-- The code of the character with a name. -/
def find? (r : NameRun) (name : String) : Option Nat :=
  (r.ends.findIdx? (r.stem ++ · == name)).map (r.first + ·)

end NameRun

/-- The runs of the table of names. -/
def nameRuns : List NameRun :=
  ((String.ofList (characterNames.toList.filter (· != '\n'))).splitOn ";").filterMap NameRun.ofText?

/-- The ideographs that are named by their code in four or five digits. -/
def unifiedIdeographs : List (Nat × Nat) :=
  [(0x3400, 0x4dbf), (0x4e00, 0x9fff), (0x20000, 0x2a6df), (0x2a700, 0x2b738), (0x2b740, 0x2b81d),
    (0x2b820, 0x2cea1), (0x2ceb0, 0x2ebe0), (0x30000, 0x3134a)]

/-- The unified ideograph with a code that is written in digits and capital letters. -/
def ideographNamed? (digits : List Char) : Option Nat := do
  if digits.length != 4 && digits.length != 5 then failure
  if digits.any Char.isLower then failure
  let code ← numberOf? 16 digits
  if unifiedIdeographs.any fun (first, last) => first ≤ code && code ≤ last then return code
  failure

/-- The letters that begin a syllable. -/
def leadLetters : List String :=
  ["G", "GG", "N", "D", "DD", "R", "M", "B", "BB", "S", "SS", "", "J", "JJ", "C", "K", "T", "P", "H"]

/-- The vowels of a syllable. -/
def vowelLetters : List String :=
  ["A", "AE", "YA", "YAE", "EO", "E", "YEO", "YE", "O", "WA", "WAE", "OE", "YO", "U", "WEO", "WE",
    "WI", "YU", "EU", "YI", "I"]

/-- The letters that end a syllable. -/
def tailLetters : List String :=
  ["", "G", "GG", "GS", "N", "NJ", "NH", "D", "L", "LG", "LM", "LB", "LS", "LT", "LP", "LH", "M", "B",
    "BS", "S", "SS", "NG", "J", "C", "K", "T", "P", "H"]

/-- The names of the syllables, in the order of their codes. -/
def syllableNames : List String :=
  leadLetters.flatMap fun lead => vowelLetters.flatMap fun vowel =>
    tailLetters.map fun tail => lead ++ vowel ++ tail

/-- The syllable with a name. -/
def syllableNamed? (name : String) : Option Nat :=
  (syllableNames.findIdx? (· == name)).map (0xac00 + ·)

/-- The other characters whose names end in their code: the stems of the names, and the codes. -/
def codedNames : List (String × Nat × Nat) :=
  [("CJK COMPATIBILITY IDEOGRAPH-", 0xf900, 0xfa6d), ("CJK COMPATIBILITY IDEOGRAPH-", 0xfa70, 0xfad9),
    ("CJK COMPATIBILITY IDEOGRAPH-", 0x2f800, 0x2fa1d),
    ("KHITAN SMALL SCRIPT CHARACTER-", 0x18b00, 0x18cd5), ("NUSHU CHARACTER-", 0x1b170, 0x1b2fb)]

/-- The code at the end of a name, when the name is the one that is made of a stem and this code. -/
def codeAtEnd? (name stem : String) (first last : Nat) : Option Nat := do
  let code ← numberOf? 16 (name.toList.drop stem.length)
  if first ≤ code && code ≤ last && stem ++ (String.ofList (Nat.toDigits 16 code)).toUpper == name then
    return code
  failure

/-- The code of the character that a name stands for.  Case means nothing, but in the names of unified
ideographs and of syllables. -/
def characterNamed? (name : String) : Option Nat :=
  match name.dropPrefix? "HANGUL SYLLABLE " with
  | some rest => syllableNamed? rest.copy
  | none =>
    match name.dropPrefix? "CJK UNIFIED IDEOGRAPH-" with
    | some digits => ideographNamed? digits.copy.toList
    | none =>
      let capitals := name.toUpper
      (nameRuns.findSome? (·.find? capitals)).or
        (codedNames.findSome? fun (stem, first, last) => codeAtEnd? capitals stem first last)

end LibraryCatalogue
