import LibraryCatalogue.Text.Basic
import LibraryCatalogue.Xml.Doctype

/-!
# The content of a document

Content is a row of marks: tags, texts and references to entities.  Replacing a reference puts the
marks of the entity in its place; these must open and close in pairs among themselves.

* `Mark` — one mark of the content;
* `readRoot`, `readMarks` — the marks of the outermost element, and those of a whole text;
* `expandMarks` — the marks with all references replaced;
* `Doctype.sizes`, `staysInBounds` — how long the entities are, and whether a document that refers to
  them stays in proportion to what was written;
* `readDocument` — the marks of a document, with what it declares.
-/

namespace LibraryCatalogue.Xml

/-- An attribute as it is written. -/
structure RawAttribute where
  name : QName
  value : List Char
deriving DecidableEq, Repr

/-- One mark of the content. -/
inductive Mark where
  | openTag (name : QName) (attributes : List RawAttribute)
  | closeTag (name : String)
  | text (cs : List Char)
  | entity (name : String)
deriving DecidableEq, Repr

/-- How much deeper a mark leads. -/
def Mark.step : Mark → Int
  | .openTag _ _ => 1
  | .closeTag _ => -1
  | _ => 0

/-- The attributes of a tag up to its end, and whether the tag closes itself. -/
def readTagEnd : Nat → List Char → Option (Piece (List RawAttribute × Bool))
  | 0, _ => none
  | fuel + 1, cs =>
    match skipSpaces cs with
    | '>' :: rest => some (([], false), rest)
    | '/' :: '>' :: rest => some (([], true), rest)
    | _ => do
      let (name, rest) ← readQName (← skipSpace cs)
      match skipSpaces rest with
      | '=' :: rest =>
        let (value, rest) ← readLiteral (skipSpaces rest)
        let ((more, closed), rest) ← readTagEnd fuel rest
        return ((⟨name, value⟩ :: more, closed), rest)
      | _ => failure

/-- Whether a text holds what only ends a literal text. -/
def holdsLiteralEnd : List Char → Bool
  | [] => false
  | c :: rest => "]]>".toList.isPrefixOf (c :: rest) || holdsLiteralEnd rest

/-- The marks at the front of a text: one, or two for a tag that closes itself, or none. -/
def readMark (cs : List Char) : Option (Piece (List Mark)) := do
  match cs with
  | '<' :: '/' :: rest =>
    let (name, rest) ← readQName rest
    return ([.closeTag name.text], ← finish rest)
  | '<' :: '?' :: rest => return ([], ← readInstruction rest)
  | '<' :: '!' :: '-' :: '-' :: rest => return ([], ← readComment rest)
  | '<' :: '!' :: rest =>
    let (text, rest) ← upToWord? "]]>".toList (← afterWord? "[CDATA[" rest)
    return ([.text text], rest)
  | '<' :: rest =>
    let (name, rest) ← readQName rest
    let ((attributes, closed), rest) ← readTagEnd (rest.length + 1) rest
    let tag := Mark.openTag name attributes
    return (if closed then [tag, .closeTag name.text] else [tag], rest)
  | '&' :: rest =>
    match ← readReference rest with
    | (.named name, rest) =>
      return ((predefined? name).elim [.entity name] (fun c => [.text [c]]), rest)
    | (.numbered c, rest) | (.plain c, rest) => return ([.text [c]], rest)
  | cs =>
    let text := cs.takeWhile fun c => c != '<' && c != '&'
    if holdsLiteralEnd text then failure
    return ([.text text], cs.drop text.length)

/-- The marks up to where the content is `depth` closings further out; the first argument bounds
their number. -/
def readRootFrom : Nat → Int → List Char → Option (Piece (List Mark))
  | 0, _, _ => none
  | fuel + 1, depth, cs => do
    if cs.isEmpty then failure
    let (marks, rest) ← readMark cs
    let depth := marks.foldl (fun depth m => depth + m.step) depth
    if depth == 0 then return (marks, rest)
    let (more, rest) ← readRootFrom fuel depth rest
    return (marks ++ more, rest)

/-- The marks of the outermost element, which starts here. -/
def readRoot (cs : List Char) : Option (Piece (List Mark)) :=
  match cs with
  | '<' :: c :: _ => if isNameStart c then readRootFrom cs.length 0 cs else none
  | _ => none

/-- The marks of a whole text; the first argument bounds their number. -/
def readMarksFrom : Nat → List Char → Option (List Mark)
  | _, [] => some []
  | 0, _ => none
  | fuel + 1, cs => do
    let (marks, rest) ← readMark cs
    return marks ++ (← readMarksFrom fuel rest)

/-- The marks of a whole text. -/
def readMarks (cs : List Char) : Option (List Mark) :=
  readMarksFrom cs.length cs

/-- Whether marks open and close in pairs, starting `depth` openings deep. -/
def isBalanced : Int → List Mark → Bool
  | depth, [] => depth == 0
  | depth, m :: rest => 0 ≤ depth + m.step && isBalanced (depth + m.step) rest

/-- The marks that one mark stands for. -/
def expandMark (d : Doctype) (deeper : List Mark → Option (List Mark)) :
    Mark → Option (List Mark)
  | .entity name =>
    match d.entities.lookup name with
    | some (.text replacement) => do
      let marks ← readMarks (unifyNewlines replacement)
      if isBalanced 0 marks then deeper marks else failure
    | _ => none
  | m => some [m]

/-- The marks with all references replaced, where references lie at most `depth` deep. -/
def expandMarksFrom (d : Doctype) : Nat → List Mark → Option (List Mark)
  | 0, _ => none
  | depth + 1, marks => (marks.mapM (expandMark d (expandMarksFrom d depth))).map List.flatten

/-- The marks with all references replaced. -/
def expandMarks (d : Doctype) (marks : List Mark) : Option (List Mark) :=
  expandMarksFrom d d.depth marks

/-! ## Proportion -/

/-- The length up to which a document may grow by references whatever its own length. -/
def freeGrowth : Nat := 8388608

/-- How many times its own length a longer document may have. -/
def growthFactor : Nat := 100

/-- The length of parts in which a reference counts as long as its entity. -/
def bitsSize (sizes : List (String × Nat)) (bits : List Bit) : Nat :=
  total (bits.map fun
    | .named name => (sizes.lookup name).getD 1
    | _ => 1)

/-- The lengths of the entities, each cut off at a bound, where references lie at most `n` deep. -/
def Doctype.sizes (d : Doctype) : Nat → List (String × Nat)
  | 0 => d.entities.map fun (name, _) => (name, 0)
  | n + 1 =>
    let inner := d.sizes n
    d.entities.map fun
      | (name, .text t) => (name, min (2 * freeGrowth) (bitsSize inner ((readBits t).getD [])))
      | (name, .elsewhere) => (name, 0)

/-- The length that references give a mark. -/
def Mark.growth (sizes : List (String × Nat)) : Mark → Nat
  | .entity name => (sizes.lookup name).getD 0
  | .openTag _ attributes =>
    total (attributes.map fun a => bitsSize sizes ((readBits a.value).getD []))
  | _ => 0

/-- Whether a document of some length that consists of some marks stays in proportion. -/
def staysInBounds (d : Doctype) (length : Nat) (marks : List Mark) : Bool :=
  let sizes := d.sizes d.depth
  let expanded := length + total (marks.map (Mark.growth sizes))
  expanded < freeGrowth || expanded ≤ growthFactor * length

/-! ## Documents -/

/-- Goes past blanks, comments and instructions; the first argument bounds their number. -/
def skipMisc : Nat → List Char → Option (List Char)
  | 0, _ => none
  | fuel + 1, cs =>
    match skipSpaces cs with
    | '<' :: '?' :: rest => (readInstruction rest).bind (skipMisc fuel)
    | '<' :: '!' :: '-' :: '-' :: rest => (readComment rest).bind (skipMisc fuel)
    | rest => some rest

/-- What a document declares, and the marks of its outermost element. -/
structure Document where
  doctype : Doctype
  marks : List Mark

/-- Reads a document after its declaration. -/
def readDocument (decoded : Decoded) : Option Document := do
  let cs := unifyNewlines decoded.chars
  if !cs.all isMarkupChar then failure
  let rest ← skipMisc (cs.length + 1) cs
  let (doctype, rest) ← match afterWord? "<!DOCTYPE" rest with
    | some rest =>
      let (d, rest) ← readDoctype decoded.declaration.standalone rest
      pure (d, ← skipMisc (rest.length + 1) rest)
    | none => pure (Doctype.empty decoded.declaration.standalone, rest)
  let (marks, rest) ← readRoot rest
  if !(← skipMisc (rest.length + 1) rest).isEmpty then failure
  if !staysInBounds doctype cs.length marks then failure
  return ⟨doctype, ← expandMarks doctype marks⟩

end LibraryCatalogue.Xml
