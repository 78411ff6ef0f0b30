import LibraryCatalogue.Xml.Content

/-!
# Elements

Elements have names in name spaces: a short name in front of a colon stands for a name space that an
element around it has bound.

An element has no other children than elements: comments and instructions are dropped while the marks
are read, wherever they stand, so that the texts on both sides of one are a single text.  Elements may
lie in each other as deeply as they like.

* `Element` — a name, attributes, the text before the first child, and the children;
* `Scope`, `Scope.bind` — which short name stands for which name space;
* `Element.ofDocument` — the outermost element of a document;
* `parse`, `parseText` — the outermost element written by bytes or by a text.
-/

namespace LibraryCatalogue.Xml

/-- An element: its name, its attributes, the text before its first child, and its children. -/
inductive Element where
  | mk (name : String) (attributes : List (String × String)) (text : String)
      (children : List Element)
deriving Repr

/-- Which short name stands for which name space; the empty one for names without a colon. -/
abbrev Scope := List (String × String)

/-- The name space of the names that are known everywhere. -/
def markupSpace : String := "http://www.w3.org/XML/1998/namespace"

/-- The name space of the attributes that bind short names. -/
def bindingSpace : String := "http://www.w3.org/2000/xmlns/"

/-- What is bound before any element. -/
def Scope.outermost : Scope := [("xml", markupSpace)]

/-- The short name that an attribute binds, if it binds one. -/
def boundName? (n : QName) : Option String :=
  match n.space, n.base with
  | none, "xmlns" => some ""
  | some "xmlns", base => some base
  | _, _ => none

/-- Whether a short name may stand for a name space. -/
def mayBind (name uri : String) : Bool :=
  name != "xmlns" && !(name != "" && uri == "") && (name == "xml") == (uri == markupSpace) &&
    uri != bindingSpace && !uri.toList.contains '\x7d'

/-- Binds a short name. -/
def Scope.bind (scope : Scope) (name uri : String) : Option Scope :=
  if mayBind name uri then some ((name, uri) :: scope) else none

/-- A name within a name space. -/
def nameIn (uri base : String) : String :=
  if uri.isEmpty then base else "\x7b" ++ uri ++ "\x7d" ++ base

/-- The full name of an element. -/
def Scope.elementName (scope : Scope) (n : QName) : Option String :=
  match n.space with
  | some s => (scope.lookup s).map (nameIn · n.base)
  | none => some (nameIn ((scope.lookup "").getD "") n.base)

/-- The full name of an attribute; one without a colon is in no name space. -/
def Scope.attributeName (scope : Scope) (n : QName) : Option String :=
  match n.space with
  | some s => (scope.lookup s).map (nameIn · n.base)
  | none => some n.base

/-- The attributes of an element with their values: those that are written, then the defaults of
those that are not. -/
def attributeValues (d : Doctype) (element : QName) (written : List RawAttribute) :
    Option (List (QName × String)) := do
  let names := written.map (·.name)
  if names.eraseDups.length != names.length then failure
  let given ← written.mapM fun a =>
    (d.valueOf (d.isText element.text a.name) a.value).map fun v => (a.name, v)
  let defaults := d.rules.filterMap fun r =>
    if r.element == element.text && !names.contains r.name then
      r.default.map fun v => (r.name, v)
    else none
  return given ++ defaults

/-- An element that is not complete: its name as written, what is bound in it, its full name, its
attributes, its text so far and its children so far, the latest first. -/
structure Unfinished where
  written : String
  scope : Scope
  name : String
  attributes : List (String × String)
  text : List Char
  children : List Element

namespace Unfinished

/-- Starts an element inside a scope. -/
def start (d : Doctype) (outer : Scope) (name : QName) (written : List RawAttribute) :
    Option Unfinished := do
  let values ← attributeValues d name written
  let scope ← values.foldlM (fun scope (n, v) =>
    match boundName? n with
    | some short => scope.bind short v
    | none => some scope) outer
  let own := values.filter fun (n, _) => (boundName? n).isNone
  let attributes ← own.mapM fun (n, v) => (scope.attributeName n).map fun n => (n, v)
  let names := attributes.map (·.1)
  if names.eraseDups.length != names.length then failure
  return ⟨name.text, scope, ← scope.elementName name, attributes, [], []⟩

/-- Adds text; what follows a child is left out. -/
def addText (u : Unfinished) (cs : List Char) : Unfinished :=
  if u.children.isEmpty then { u with text := u.text ++ cs } else u

/-- The complete element. -/
def complete (u : Unfinished) : Element :=
  .mk u.name u.attributes (String.ofList u.text) u.children.reverse

end Unfinished

/-- The element that marks write; the elements that are not complete are given with the innermost
one first. -/
def build (d : Doctype) : List Unfinished → List Mark → Option Element
  | _, [] => none
  | stack, .openTag name attributes :: rest => do
    let scope := (stack.head?.map (·.scope)).getD .outermost
    build d ((← Unfinished.start d scope name attributes) :: stack) rest
  | u :: stack, .closeTag name :: rest =>
    if u.written != name then none
    else
      match stack with
      | [] => if rest.isEmpty then some u.complete else none
      | outer :: stack =>
        build d ({ outer with children := u.complete :: outer.children } :: stack) rest
  | u :: stack, .text cs :: rest => build d (u.addText cs :: stack) rest
  | _, _ => none

/-- The outermost element of a document. -/
def Element.ofDocument (doc : Document) : Option Element :=
  build doc.doctype [] doc.marks

/-- The outermost element written by bytes. -/
def parse (bytes : List UInt8) : Except Refusal Element := do
  match (readDocument (← decodeDocument bytes)).bind Element.ofDocument with
  | some e => return e
  | none => throw .malformed

/-- The outermost element written by a text. -/
def parseText (s : String) : Option Element := do
  Element.ofDocument (← readDocument (← decodeText s))

end LibraryCatalogue.Xml
