import LibraryCatalogue.Text.Base64
import LibraryCatalogue.Text.Basic
import LibraryCatalogue.Yaml.Moment
import LibraryCatalogue.Yaml.Number

/-!
# Tags

A tag says what kind of value a node is.  A plain scalar without a tag gets one by the way it is
written.

* `Tag`, `Tag.ofName` — the kinds of values, and their names;
* `Tag.ofPlain` — the kind of a plain scalar;
* `Tag.readScalar` — the value that a scalar of some kind says.
-/

namespace LibraryCatalogue.Yaml

/-- The kinds of values. -/
inductive Tag where
  | null
  | bool
  | int
  | float
  | binary
  | moment
  | text
  | sequence
  | mapping
  | set
  | pairs
  /-- The key under which other mappings are merged into one. -/
  | merge
  /-- The key of the scalar that stands for a whole mapping. -/
  | whole
  | unknown
deriving DecidableEq, Repr

namespace Tag

/-- What the names of all known tags begin with. -/
def knownNames : String := "tag:yaml.org,2002:"

/-- The known tags under their names. -/
def known : List (String × Tag) :=
  [("null", .null), ("bool", .bool), ("int", .int), ("float", .float), ("binary", .binary),
    ("timestamp", .moment), ("str", .text), ("seq", .sequence), ("map", .mapping), ("set", .set),
    ("omap", .pairs), ("pairs", .pairs), ("merge", .merge), ("value", .whole)]

/-- The tag with a name. -/
def ofName (name : String) : Tag :=
  ((known.find? fun e => knownNames ++ e.1 == name).map (·.2)).getD .unknown

/-- The words for the truth values. -/
def truthWords : List (String × Bool) :=
  [("yes", true), ("no", false), ("true", true), ("false", false), ("on", true), ("off", false)]

/-- A word in lower case, with a capital, and in capitals. -/
def spellings (word : String) : List String :=
  [word, word.capitalize, word.map Char.toUpper]

/-- The kind of a plain scalar. -/
def ofPlain (text : List Char) : Tag :=
  let cs := dropFinalBreak text
  let word := String.ofList cs
  if cs.isEmpty then (if text.isEmpty then .null else .text)
  else if truthWords.any fun e => (spellings e.1).contains word then .bool
  else if isFloat cs then .float
  else if isInteger cs then .int
  else if word == "<<" then .merge
  else if word == "~" || (spellings "null").contains word then .null
  else if isMoment cs then .moment
  else if word == "=" then .whole
  else .text

/-- The truth value that a word says. -/
def readTruth (cs : List Char) : Except Fault Bool :=
  match truthWords.lookup (lowerText (String.ofList cs)) with
  | some b => .ok b
  | none => .error .wordUnknown

/-- The bytes that a text says in groups of six bits. -/
def readBinary (cs : List Char) : Except Fault (List UInt8) :=
  if cs.any fun c => 128 ≤ c.toNat then .error .malformed
  else
    match decodeBase64 cs with
    | some bytes => .ok bytes
    | none => .error .malformed

/-- The value that a scalar of some kind says. -/
def readScalar (tag : Tag) (cs : List Char) : Except Fault Value :=
  match tag with
  | .null => .ok .null
  | .bool => (readTruth cs).map .bool
  | .int => (readInteger cs).map .int
  | .float => (readFloat cs).map .float
  | .binary => (readBinary cs).map .bytes
  | .moment => readMoment cs
  | .text => .ok (.text (String.ofList cs))
  | _ => .error .malformed

end Tag

end LibraryCatalogue.Yaml
