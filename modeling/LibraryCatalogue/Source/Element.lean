import LibraryCatalogue.Text.Basic
import LibraryCatalogue.Value.Basic
import LibraryCatalogue.Xml.Element

/-!
# Elements as raw values

Every child of an element is an element, since the reader hands over neither comments nor
instructions: there is nothing to leave out here.  How deep elements lie in each other is not bounded.

* `listElements`, `textElements` — the names of elements that always make a list, and of those whose
  whole content is their text;
* `elementValue` — the raw value that an element writes: attributes and children by name, and
  the text of the element as its value.
-/

namespace LibraryCatalogue.Source

open Xml (Element)

/-- The elements that make a list even when there is only one. -/
def listElements : List String :=
  ["catalogue", "setvalue", "condition", "specialmapping", "type", "mapping"]

/-- The elements whose whole content is their text. -/
def textElements : List String := ["mapping"]

/-- The key of the text of an element that has other content too. -/
def textKey : String := "value"

/-- Writes the value of a child; an attribute in the place of a list is a clash. -/
def addChild (name : String) (value : Value) (node : Entries) : Except String Entries :=
  if listElements.contains name then
    match Value.get? node name with
    | none => .ok (Value.insert (.text name) (.list [value]) node)
    | some (.list vs) => .ok (Value.insert (.text name) (.list (vs ++ [value])) node)
    | some _ => .error name
  else .ok (Value.insert (.text name) value node)

/-- Writes the text of an element, unless it is empty or its place is taken. -/
def addText (text : String) (node : Entries) : Entries :=
  if text.isEmpty || (Value.get? node textKey).isSome then node
  else node ++ [(.text textKey, .text text)]

/-- The entries that attributes write. -/
def attributeEntries (attributes : List (String × String)) : Entries :=
  Value.ofEntries (attributes.map fun (n, v) => (.text n, .text v))

mutual

/-- The raw value of an element, or the name on which an attribute and a list clash. -/
def elementValue : Element → Except String Value
  | .mk name attributes text children =>
    let text := trim text
    if textElements.contains name then .ok (.text text)
    else do
      let node ← childEntries (attributeEntries attributes) children
      return .map (addText text node)

/-- The entries of an element after its children were written. -/
def childEntries (node : Entries) : List Element → Except String Entries
  | [] => .ok node
  | .mk name attributes text children :: rest => do
    let value ← elementValue (.mk name attributes text children)
    childEntries (← addChild name value node) rest

end

end LibraryCatalogue.Source
