import LibraryCatalogue.Text.Basic
import LibraryCatalogue.Xml.Declaration
import LibraryCatalogue.Xml.Reference

/-!
# What a document declares

A document may declare entities, and attributes with their types and defaults.  Parts of a
declaration that lie outside of the document are never read; after a reference to such a part,
declarations no longer count unless the document stands alone.

* `EntityText`, `AttributeRule`, `Doctype` — what was declared;
* `Doctype.valueOf` — an attribute value with its references replaced;
* `readComment`, `readInstruction` — what may stand between declarations, and is skipped;
* `readDoctype` — a whole declaration.
-/

namespace LibraryCatalogue.Xml

/-- What an entity stands for: a text, or something outside of the document. -/
inductive EntityText where
  | text (replacement : List Char)
  | elsewhere
deriving DecidableEq, Repr

/-- What is declared about an attribute of an element. -/
structure AttributeRule where
  element : String
  name : QName
  isText : Bool
  default : Option String
deriving DecidableEq, Repr

/-- What a document declares. -/
structure Doctype where
  entities : List (String × EntityText)
  rules : List AttributeRule
  hasUnread : Bool
  counts : Bool
  standalone : Bool
deriving Repr

namespace Doctype

/-- A document that declares nothing. -/
def empty (standalone : Bool) : Doctype :=
  ⟨[], [], false, true, standalone⟩

/-- Whether an entity that is not declared may be declared somewhere outside. -/
def isOpen (d : Doctype) : Bool :=
  d.hasUnread && !d.standalone

/-- How deep references can lie in one another without going in a circle. -/
def depth (d : Doctype) : Nat :=
  d.entities.length + 1

/-- The characters of one part of an attribute value. -/
def bitValue (d : Doctype) (deeper : List Bit → Option (List Char)) :
    Bit → Option (List Char)
  | .plain c => if c == '<' then none else if isSpace c then some [' '] else some [c]
  | .numbered c => some [c]
  | .named name =>
    match predefined? name with
    | some c => some [c]
    | none =>
      match d.entities.lookup name with
      | some (.text replacement) => (readBits replacement).bind deeper
      | some .elsewhere => none
      | none => if d.isOpen then some [] else none

/-- The characters of an attribute value whose references lie at most `depth` deep. -/
def expandValue (d : Doctype) : Nat → List Bit → Option (List Char)
  | 0, _ => none
  | depth + 1, bits => (bits.mapM (d.bitValue (d.expandValue depth))).map List.flatten

/-- A row of characters with single spaces, and none at its ends. -/
def squeezeSpaces (cs : List Char) : List Char :=
  let words := (String.ofList cs).splitOn " "
  (" ".intercalate (words.filter (· != ""))).toList

/-- An attribute value with its references replaced and its blanks made spaces.  Only values that
are texts keep all of their spaces. -/
def valueOf (d : Doctype) (isText : Bool) (written : List Char) : Option String := do
  let cs ← d.expandValue d.depth (← readBits written)
  return String.ofList (if isText then cs else squeezeSpaces cs)

/-- Whether an attribute is a text; the first rule about it counts. -/
def isText (d : Doctype) (element : String) (name : QName) : Bool :=
  (d.rules.find? fun r => r.element == element && r.name == name).all (·.isText)

/-- Declares an entity; the first declaration of a name counts. -/
def declareEntity (d : Doctype) (name : String) (e : EntityText) : Doctype :=
  if d.counts && (predefined? name).isNone && (d.entities.lookup name).isNone then
    { d with entities := d.entities ++ [(name, e)] }
  else d

/-- Declares an attribute; a default counts only if nothing was declared before. -/
def declareAttribute (d : Doctype) (r : AttributeRule) : Doctype :=
  let known := d.rules.any fun s => s.element == r.element && s.name == r.name
  if d.counts && !(known && r.default.isSome) then { d with rules := d.rules ++ [r] } else d

/-- Goes past a reference to a part that is not read. -/
def skipPart (d : Doctype) : Doctype :=
  { d with hasUnread := true, counts := d.standalone }

end Doctype

/-! ## Reading declarations -/

/-- A quoted literal. -/
def readLiteral (cs : List Char) : Option (Piece (List Char)) :=
  match cs with
  | '"' :: rest => upToWord? ['"'] rest
  | '\'' :: rest => upToWord? ['\''] rest
  | _ => none

/-- A character of a public name. -/
def isPublicChar (c : Char) : Bool :=
  c.isAlphanum || " \r\n-'()+,./:=?;!*#@$_%".toList.contains c

/-- A public name. -/
def readPublic (cs : List Char) : Option (List Char) := do
  let (name, rest) ← readLiteral cs
  if name.all isPublicChar then return rest else failure

/-- Where something outside of the document lies. -/
def skipExternal (cs : List Char) : Option (List Char) := do
  match afterWord? "SYSTEM" cs with
  | some rest => (readLiteral (← skipSpace rest)).map (·.2)
  | none =>
    let rest ← readPublic (← skipSpace (← afterWord? "PUBLIC" cs))
    (readLiteral (← skipSpace rest)).map (·.2)

/-- The end of a declaration, before which blanks may stand. -/
def finish (cs : List Char) : Option (List Char) :=
  afterWord? ">" (skipSpaces cs)

/-- The replacement text of an entity: numbered characters are replaced, named references stay. -/
def replacementOf (literal : List Char) : Option (List Char) := do
  let parts ← (← readBits literal).mapM fun
    | .plain c => if c == '%' then none else some [c]
    | .numbered c => some [c]
    | .named name => some ('&' :: name.toList ++ [';'])
  return parts.flatten

/-- The declaration of an entity of the declarations themselves, after its percent sign. -/
def readPartEntity (d : Doctype) (cs : List Char) : Option (Piece Doctype) := do
  let (_, rest) ← readName (← skipSpace cs)
  let rest ← skipSpace rest
  match readLiteral rest with
  | some (literal, rest) =>
    if d.counts then let _ ← replacementOf literal
    return (d, ← finish rest)
  | none => return (d, ← finish (← skipExternal rest))

/-- The declaration of an entity. -/
def readEntity (d : Doctype) (cs : List Char) : Option (Piece Doctype) := do
  let cs ← skipSpace cs
  match cs with
  | '%' :: rest => readPartEntity d rest
  | cs =>
    let (name, rest) ← readName cs
    let rest ← skipSpace rest
    match readLiteral rest with
    | some (literal, rest) =>
      if d.counts then
        return (d.declareEntity name (.text (← replacementOf literal)), ← finish rest)
      else return (d, ← finish rest)
    | none =>
      let rest ← skipExternal rest
      let spaced := (skipSpace rest).bind (afterWord? "NDATA")
      let rest ← match spaced with
        | some rest => (readName (← skipSpace rest)).map (·.2)
        | none => pure rest
      return (d.declareEntity name .elsewhere, ← finish rest)

/-- Goes past a mark of repetition. -/
def skipRepetition (cs : List Char) : List Char :=
  match cs with
  | '?' :: rest | '*' :: rest | '+' :: rest => rest
  | cs => cs

mutual

/-- Goes past one part of a content model: a name or a group. -/
def skipParticle : Nat → List Char → Option (List Char)
  | 0, _ => none
  | fuel + 1, '(' :: rest => (skipGroup fuel none (skipSpaces rest)).map skipRepetition
  | _ + 1, cs => (readQName cs).map fun (_, rest) => skipRepetition rest

/-- Goes past the parts of a group up to its end; all separators of a group are the same. -/
def skipGroup : Nat → Option Char → List Char → Option (List Char)
  | 0, _, _ => none
  | fuel + 1, separator, cs => do
    let rest := skipSpaces (← skipParticle fuel cs)
    match rest with
    | ')' :: rest => return rest
    | c :: rest =>
      if (c == '|' || c == ',') && (separator.all (· == c)) then
        skipGroup fuel (some c) (skipSpaces rest)
      else failure
    | [] => failure

end

/-- Goes past the names of a mixed group, after its first word. -/
def skipMixed : Nat → Bool → List Char → Option (List Char)
  | 0, _, _ => none
  | fuel + 1, named, cs =>
    match skipSpaces cs with
    | ')' :: '*' :: rest => some rest
    | ')' :: rest => if named then none else some rest
    | '|' :: rest => (readQName (skipSpaces rest)).bind fun (_, rest) => skipMixed fuel true rest
    | _ => none

/-- Goes past what an element may contain. -/
def skipContentModel (cs : List Char) : Option (List Char) :=
  match afterWord? "EMPTY" cs, afterWord? "ANY" cs, cs with
  | some rest, _, _ => some rest
  | none, some rest, _ => some rest
  | none, none, '(' :: rest =>
    match afterWord? "#PCDATA" (skipSpaces rest) with
    | some rest => skipMixed rest.length false rest
    | none => skipParticle cs.length cs
  | _, _, _ => none

/-- Goes past the declaration of an element. -/
def skipElementDeclaration (cs : List Char) : Option (List Char) := do
  let (_, rest) ← readQName (← skipSpace cs)
  finish (← skipContentModel (← skipSpace rest))

/-- Goes past the declaration of a notation. -/
def skipNotation (cs : List Char) : Option (List Char) := do
  let (_, rest) ← readName (← skipSpace cs)
  let rest ← skipSpace rest
  match skipExternal rest with
  | some rest => finish rest
  | none => finish (← readPublic (← skipSpace (← afterWord? "PUBLIC" rest)))

/-- Goes past a row of words between bars, up to its end. -/
def skipChoices (word : List Char → Option (List Char)) : Nat → List Char → Option (List Char)
  | 0, _ => none
  | fuel + 1, cs => do
    match skipSpaces (← word (skipSpaces cs)) with
    | ')' :: rest => return rest
    | '|' :: rest => skipChoices word fuel rest
    | _ => failure

/-- Goes past a word of name characters. -/
def skipToken (cs : List Char) : Option (List Char) :=
  let word := cs.takeWhile fun c => isNameChar c || c == ':'
  if word.isEmpty then none else some (cs.drop word.length)

/-- The types of attributes that are words; longer words come before those that begin them. -/
def attributeTypes : List String :=
  ["CDATA", "IDREFS", "IDREF", "ID", "ENTITIES", "ENTITY", "NMTOKENS", "NMTOKEN"]

/-- The type of an attribute: whether it is a text. -/
def readAttributeType (cs : List Char) : Option (Piece Bool) := do
  match cs with
  | '(' :: rest => return (false, ← skipChoices skipToken cs.length rest)
  | cs =>
    match afterWord? "NOTATION" cs with
    | some rest =>
      let rest ← afterWord? "(" (← skipSpace rest)
      return (false, ← skipChoices (fun cs => (readName cs).map (·.2)) cs.length rest)
    | none =>
      let type ← attributeTypes.find? fun t => (afterWord? t cs).isSome
      return (type == "CDATA", cs.drop type.length)

/-- The default of an attribute. -/
def readDefault (d : Doctype) (isText : Bool) (cs : List Char) :
    Option (Piece (Option String)) := do
  match afterWord? "#REQUIRED" cs, afterWord? "#IMPLIED" cs with
  | some rest, _ | none, some rest => return (none, rest)
  | none, none =>
    let cs ← match afterWord? "#FIXED" cs with
      | some rest => skipSpace rest
      | none => pure cs
    let (literal, rest) ← readLiteral cs
    if d.counts then return (some (← d.valueOf isText literal), rest) else return (some "", rest)

/-- The attributes of an element, up to the end of their declaration. -/
def readAttributes (element : String) : Nat → Doctype → List Char → Option (Piece Doctype)
  | 0, _, _ => none
  | fuel + 1, d, cs => do
    match finish cs with
    | some rest => return (d, rest)
    | none =>
      let (name, rest) ← readQName (← skipSpace cs)
      let (isText, rest) ← readAttributeType (← skipSpace rest)
      let (default, rest) ← readDefault d isText (← skipSpace rest)
      readAttributes element fuel (d.declareAttribute ⟨element, name, isText, default⟩) rest

/-- The declaration of the attributes of an element. -/
def readAttributeList (d : Doctype) (cs : List Char) : Option (Piece Doctype) := do
  let (element, rest) ← readQName (← skipSpace cs)
  readAttributes element.text cs.length d rest

/-- Goes past a comment, after its opening. -/
def readComment (cs : List Char) : Option (List Char) := do
  let (_, rest) ← upToWord? "--".toList cs
  afterWord? ">" rest

/-- Goes past an instruction to some application, after its opening. -/
def readInstruction (cs : List Char) : Option (List Char) := do
  let (target, rest) ← readName cs
  if sameWord target "xml" then failure
  match afterWord? "?>" rest with
  | some rest => return rest
  | none => (upToWord? "?>".toList (← skipSpace rest)).map (·.2)

/-- One declaration, or something between declarations. -/
def readDeclared (d : Doctype) (cs : List Char) : Option (Piece Doctype) :=
  match cs with
  | '%' :: rest => do
    let (_, rest) ← readName rest
    return (d.skipPart, ← afterWord? ";" rest)
  | '<' :: '?' :: rest => (readInstruction rest).map fun rest => (d, rest)
  | '<' :: '!' :: '-' :: '-' :: rest => (readComment rest).map fun rest => (d, rest)
  | cs =>
    match afterWord? "<!ENTITY" cs, afterWord? "<!ATTLIST" cs, afterWord? "<!ELEMENT" cs,
      afterWord? "<!NOTATION" cs with
    | some rest, _, _, _ => readEntity d rest
    | _, some rest, _, _ => readAttributeList d rest
    | _, _, some rest, _ => (skipElementDeclaration rest).map fun rest => (d, rest)
    | _, _, _, some rest => (skipNotation rest).map fun rest => (d, rest)
    | _, _, _, _ => none

/-- The declarations up to a closing bracket. -/
def readSubset : Nat → Doctype → List Char → Option (Piece Doctype)
  | 0, _, _ => none
  | fuel + 1, d, cs =>
    match skipSpaces cs with
    | ']' :: rest => some (d, rest)
    | cs => (readDeclared d cs).bind fun (d, rest) => readSubset fuel d rest

/-- What a document declares, after the opening word. -/
def readDoctype (standalone : Bool) (cs : List Char) : Option (Piece Doctype) := do
  let (_, rest) ← readQName (← skipSpace cs)
  let d := Doctype.empty standalone
  let (d, rest) := match (skipSpace rest).bind skipExternal with
    | some rest => ({ d with hasUnread := true }, rest)
    | none => (d, rest)
  match skipSpaces rest with
  | '[' :: rest =>
    let (d, rest) ← readSubset (rest.length + 1) d rest
    return (d, ← finish rest)
  | rest => return (d, ← finish rest)

end LibraryCatalogue.Xml
