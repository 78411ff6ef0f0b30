import LibraryCatalogue.Text.Basic
import LibraryCatalogue.Text.Charset
import LibraryCatalogue.Xml.Name

/-!
# From bytes to the characters of a document

The first bytes tell 16-bit documents from all others; the declaration at the start may then name a
character set.  Those that are known from the start have to agree with the first bytes.

* `Declaration`, `readDeclaration` — the declaration at the start of a document;
* `Refusal` — why a document cannot be read;
* `charsetNamed` — the character set by which a document can be read;
* `Decoded`, `decodeDocument`, `decodeText` — the characters of a document after its declaration.
-/

namespace LibraryCatalogue.Xml

/-- Why a document cannot be read: it is malformed, or its character set is not known, one in which a
character can take more than one byte, one that decodes nothing unless all of it is right, or one in
which some bytes are no text. -/
inductive Refusal where
  | malformed
  | charsetUnknown
  | charsetMultiByte
  | charsetStrict
  | charsetUndecodable
deriving DecidableEq, Repr

/-- What the declaration at the start of a document says. -/
structure Declaration where
  charset : Option String
  standalone : Bool
deriving DecidableEq, Repr

/-- The declaration of a document that has none. -/
def Declaration.none : Declaration := ⟨.none, false⟩

/-- A character of a quoted setting in a declaration. -/
def isSettingChar (c : Char) : Bool :=
  c.isAlphanum || c == '.' || c == '-' || c == '_'

/-- A setting of a declaration: a name, an equals sign and a quoted word.  Nothing but blanks up to
the end is no setting. -/
def readSetting (cs : List Char) : Option (Option (Piece (String × String))) := do
  if cs.isEmpty then return .none
  let cs ← skipSpace cs
  if cs.isEmpty then return .none
  let name := cs.takeWhile fun c => !isSpace c && c != '='
  if name.isEmpty then failure
  match skipSpaces (cs.drop name.length) with
  | '=' :: rest =>
    match skipSpaces rest with
    | quote :: rest =>
      if quote != '"' && quote != '\'' then failure
      let value := rest.takeWhile isSettingChar
      match rest.drop value.length with
      | q :: rest =>
        if q != quote then failure
        return some ((String.ofList name, String.ofList value), rest)
      | [] => failure
    | [] => failure
  | _ => failure

/-- The setting for documents that need nothing from outside. -/
def readStandalone (charset : Option String) (setting : Option (Piece (String × String))) :
    Option Declaration :=
  match setting with
  | .none => some ⟨charset, false⟩
  | some ((name, value), rest) =>
    if name == "standalone" && (value == "yes" || value == "no") && (skipSpaces rest).isEmpty then
      some ⟨charset, value == "yes"⟩
    else .none

/-- What the inside of a declaration says: a version, then possibly a character set, then possibly
whether the document stands alone. -/
def readSettings (cs : List Char) : Option Declaration := do
  match ← readSetting cs with
  | .none => failure
  | some ((name, _), rest) =>
    if name != "version" then failure
    match ← readSetting rest with
    | some (("encoding", charset), rest) =>
      if !(charset.toList.head?.map Char.isAlpha).getD false then failure
      readStandalone (some charset) (← readSetting rest)
    | setting => readStandalone .none setting

/-- The declaration at the start of a document, and what follows it. -/
def readDeclaration (cs : List Char) : Option (Piece Declaration) := do
  match afterWord? "<?xml" cs with
  | some rest =>
    if rest.head?.any isNameChar then return (.none, cs)
    let (inside, rest) ← upToWord? "?>".toList rest
    return (← readSettings inside, rest)
  | .none => return (.none, cs)

/-- The characters of a document after its declaration. -/
structure Decoded where
  declaration : Declaration
  chars : List Char

/-- Whether two words are the same up to the case of ASCII letters. -/
def sameWord (a b : String) : Bool :=
  a.toList.map lowerAscii == b.toList.map lowerAscii

/-- The mark that may stand before a document. -/
def byteOrderMark : Char := Char.ofNat 0xfeff

/-- The character set that a name stands for, by which a document can be read. -/
def charsetNamed (name : String) : Except Refusal Charset :=
  match Charset.named name with
  | .known s => .ok s
  | .multiByte => .error .charsetMultiByte
  | .unfit => .error .malformed
  | .strict => .error .charsetStrict
  | .undecodable => .error .charsetUndecodable
  | .unknown => .error .charsetUnknown

/-- The 16-bit units of bytes, each as a character of its own; what is none is a replacement
character, which no declaration holds. -/
def looseUnits (bigEndian : Bool) : List UInt8 → List Char
  | a :: b :: rest =>
    let unit := if bigEndian then a.toNat * 256 + b.toNat else b.toNat * 256 + a.toNat
    (charBetween? 0 unit).getD '\ufffd' :: looseUnits bigEndian rest
  | _ => []

/-- Leaves out the mark that may stand before a document. -/
def withoutMark (cs : List Char) : List Char :=
  if cs.head? == some byteOrderMark then cs.tail else cs

/-- A document of 16-bit units.  One whose declaration names another set goes on in that set after
the declaration, unless that is one of those that are known from the start. -/
def decodeWide (bigEndian : Bool) (bytes : List UInt8) : Except Refusal Decoded := do
  let units := looseUnits bigEndian bytes
  let some (d, rest) := readDeclaration (withoutMark units) | throw .malformed
  let isOwn := fun name =>
    ["UTF-16", if bigEndian then "UTF-16BE" else "UTF-16LE"].any (sameWord name)
  match d.charset.filter fun name => !isOwn name with
  | .none =>
    let some cs := (Charset.utf16 bigEndian).decode? bytes | throw .malformed
    let some (d, rest) := readDeclaration (withoutMark cs) | throw .malformed
    return ⟨d, rest⟩
  | some name =>
    if ["UTF-16LE", "UTF-16BE", "UTF-8", "ISO-8859-1", "US-ASCII"].any (sameWord name) then
      throw .malformed
    let charset ← charsetNamed name
    let some cs := charset.decode? (bytes.drop (2 * (units.length - rest.length)))
      | throw .malformed
    return ⟨d, cs⟩

/-- The character set of a document of bytes that names one. -/
def narrowCharset (name : String) : Except Refusal Charset :=
  if sameWord name "UTF-8" then .ok .utf8
  else if sameWord name "ISO-8859-1" then .ok .latin
  else if sameWord name "US-ASCII" then .ok .ascii
  else if ["UTF-16", "UTF-16LE", "UTF-16BE"].any (sameWord name) then .error .malformed
  else charsetNamed name

/-- A document of bytes. -/
def decodeNarrow (bytes : List UInt8) : Except Refusal Decoded := do
  let bytes := match bytes with
    | 0xef :: 0xbb :: 0xbf :: rest => rest
    | bytes => bytes
  let some (d, _) := readDeclaration (bytes.map fun b => Char.ofNat b.toNat) | throw .malformed
  let charset ← match d.charset with
    | some name => narrowCharset name
    | .none => pure .utf8
  let some cs := charset.decode? bytes | throw .malformed
  let some (_, rest) := readDeclaration cs | throw .malformed
  return ⟨d, rest⟩

/-- The characters of a document given by its bytes. -/
def decodeDocument (bytes : List UInt8) : Except Refusal Decoded :=
  match bytes with
  | 0xfe :: 0xff :: _ => decodeWide true bytes
  | 0xff :: 0xfe :: _ => decodeWide false bytes
  | 0 :: _ :: _ => decodeWide true bytes
  | _ :: 0 :: _ => decodeWide false bytes
  | bytes => decodeNarrow bytes

/-- The characters of a document given as a text; what it says of a character set has no meaning. -/
def decodeText (s : String) : Option Decoded := do
  let (d, rest) ← readDeclaration (withoutMark s.toList)
  return ⟨d, rest⟩

end LibraryCatalogue.Xml
