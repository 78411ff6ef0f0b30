import LibraryCatalogue.Yaml.Quoted

/-!
# Tokens

* `Token` — what a document consists of once its layout has been made explicit;
* `readAnchorName`, `readTag` — the properties in front of a node;
* `readDirective` — a line in front of a document that says how to read it.
-/

namespace LibraryCatalogue.Yaml

/-- The handle of a tag, which stands for the first part of its name, if it has one, and the rest. -/
structure TagText where
  handle : Option String
  rest : String
deriving DecidableEq, Repr

/-- A line in front of a document. -/
inductive Directive where
  | version (major minor : Nat)
  | handle (handle first : String)
  | other
deriving DecidableEq, Repr

/-- What a document consists of. -/
inductive Token where
  | directive (d : Directive)
  | documentStart
  | documentEnd
  | textEnd
  | blockSequence
  | blockMapping
  | blockEnd
  | flowSequence
  | flowSequenceEnd
  | flowMapping
  | flowMappingEnd
  | separator
  | item
  | key
  | value
  | alias (name : String)
  | anchor (name : String)
  | tag (t : TagText)
  | scalar (text : List Char) (plain : Bool)
deriving DecidableEq, Repr

/-- The characters of names. -/
def isNameChar (c : Char) : Bool :=
  c.isAlphanum || c == '-' || c == '_'

/-- The characters of the names of tags, besides escaped ones. -/
def isTagChar (c : Char) : Bool :=
  c.isAlphanum || "-;/?:@&=+$,_.!~*'()[]".toList.contains c

/-- The name of an anchor or of an alias, after its mark. -/
def readAnchorName (p : Cursor) : Except Fault (String × Cursor) := do
  let (name, p) ← (← p.next).span isNameChar
  if name.isEmpty then throw .malformed
  let c := p.rest.head?
  if endsItem c || isOneOf "?:,]\x7d%@\x60" c then return (String.ofList name, p)
  else throw .malformed

/-- A row of bytes, each written with a percent sign and two digits; the first argument bounds their
number. -/
def readEscapedBytes : Nat → Cursor → Except Fault (List UInt8 × Cursor)
  | 0, _ => .error .malformed
  | fuel + 1, p => do
    if p.rest.head? == some '%' then
      let p ← p.next
      let digits ← p.digitsAt 0 2
      let (bytes, p) ← readEscapedBytes fuel (← p.skip 2)
      return (((numberOf? 16 digits).getD 0).toUInt8 :: bytes, p)
    else return ([], p)

/-- The name of a tag in the order of its characters; the first argument bounds their number. -/
def readTagNameFrom : Nat → Cursor → Except Fault (List Char × Cursor)
  | 0, _ => .error .malformed
  | fuel + 1, p => do
    match p.rest with
    | [] => return ([], p)
    | c :: _ =>
      if c == '%' then
        let (bytes, p) ← readEscapedBytes (p.rest.length + 1) p
        let some text := decodeUtf8 bytes | throw .malformed
        let (name, p) ← readTagNameFrom fuel p
        return (text ++ name, p)
      else if isTagChar c then
        let (name, p) ← readTagNameFrom fuel (← p.next)
        return (c :: name, p)
      else return ([], p)

/-- The name of a tag, or a part of it; it is not empty. -/
def readTagName (p : Cursor) : Except Fault (String × Cursor) := do
  let (name, after) ← readTagNameFrom (p.rest.length + 1) p
  if after.index == p.index then throw .malformed
  return (String.ofList name, after)

/-- A handle: an exclamation mark on its own in front of a space, or a name between two. -/
def readHandle (p : Cursor) : Except Fault (String × Cursor) := do
  if p.rest.head? != some '!' then throw .malformed
  if (← p.charAt 1) == some ' ' then return ("!", ← p.next)
  let (name, p) ← (← p.next).span isNameChar
  if p.rest.head? != some '!' then throw .malformed
  return (String.ofList ('!' :: name ++ ['!']), ← p.next)

/-- Whether an exclamation mark comes before the end of the word. -/
def hasNamedHandle (fault : Option Fault) : List Char → Except Fault Bool
  | [] => do
    let _ ← firstChar fault []
    return false
  | c :: rest =>
    if c == ' ' || isBreak c then .ok false
    else if c == '!' then .ok true
    else hasNamedHandle fault rest

/-- A tag that is not written in full, after its first mark. -/
def readShortTag (p : Cursor) : Except Fault (TagText × Cursor) := do
  let named ← hasNamedHandle p.fault (p.rest.drop 1)
  let (handle, p) ← if named then readHandle p else pure ("!", ← p.next)
  let (rest, p) ← readTagName p
  return (⟨some handle, rest⟩, p)

/-- A tag that is written in full between angle brackets. -/
def readFullTag (p : Cursor) : Except Fault (TagText × Cursor) := do
  let (name, p) ← readTagName (← p.skip 2)
  if p.rest.head? == some '>' then return (⟨none, name⟩, ← p.next) else throw .malformed

/-- A tag. -/
def readTag (p : Cursor) : Except Fault (TagText × Cursor) := do
  let c ← p.charAt 1
  let (t, p) ←
    if endsItem c then pure (⟨none, "!"⟩, ← p.next)
    else if c == some '<' then readFullTag p
    else readShortTag p
  if endsWord p.rest.head? then return (t, p) else throw .malformed

/-- The greatest number of digits that a number of a version may have. -/
def versionDigitLimit : Nat := 4300

/-- A number of a version. -/
def readVersionNumber (p : Cursor) : Except Fault (Nat × Cursor) := do
  let (digits, p) ← p.span Char.isDigit
  if versionDigitLimit < digits.length then throw .noSuchValue
  match numberOf? 10 digits with
  | some n => return (n, p)
  | none => throw .malformed

/-- The version that a document asks for. -/
def readVersion (p : Cursor) : Except Fault (Directive × Cursor) := do
  let (major, p) ← readVersionNumber (← p.skipSpaces)
  if p.rest.head? != some '.' then throw .malformed
  let (minor, p) ← readVersionNumber (← p.next)
  if !endsWord p.rest.head? then throw .malformed
  return (.version major minor, p)

/-- What a handle stands for. -/
def readHandleMeaning (p : Cursor) : Except Fault (Directive × Cursor) := do
  let (handle, p) ← readHandle (← p.skipSpaces)
  if p.rest.head? != some ' ' then throw .malformed
  let (first, p) ← readTagName (← p.skipSpaces)
  if endsWord p.rest.head? then return (.handle handle first, p) else throw .malformed

/-- A directive, up to the end of its line. -/
def readDirective (p : Cursor) : Except Fault (Directive × Cursor) := do
  let (name, p) ← (← p.next).span isNameChar
  if name.isEmpty || !endsWord p.rest.head? then throw .malformed
  let (d, p) ←
    if name == "YAML".toList then readVersion p
    else if name == "TAG".toList then readHandleMeaning p
    else pure (Directive.other, (← p.span fun c => !isBreak c).2)
  return (d, ← p.finishLine)

end LibraryCatalogue.Yaml
