import LibraryCatalogue.Yaml.Tag

/-!
# Nodes

* `Node` — a scalar, a sequence or a mapping with its tag; a mapping is held as it is written, and
  with the mappings that are merged into it;
* `Node.ofEntries` — the mapping written by some entries;
* `Node.scalarText?` — the text that stands for a node where a scalar is wanted.
-/

namespace LibraryCatalogue.Yaml

/-- A part of a document. -/
inductive Node where
  | scalar (tag : Tag) (text : List Char)
  | sequence (tag : Tag) (items : List Node)
  /-- The entries as written, those with all merged ones in front, and whether all that should be
  merged are mappings. -/
  | mapping (tag : Tag) (entries merged : List (Node × Node)) (mergeable : Bool)

namespace Node

/-- The node that is left out. -/
def absent : Node := .scalar (Tag.ofPlain []) []

/-- The tag of a node. -/
def tag : Node → Tag
  | .scalar t _ => t
  | .sequence t _ => t
  | .mapping t _ _ _ => t

/-- A node with another tag. -/
def withTag (t : Tag) : Node → Node
  | .scalar _ text => .scalar t text
  | .sequence _ items => .sequence t items
  | .mapping _ entries merged mergeable => .mapping t entries merged mergeable

/-- The entries of a mapping, with those merged into it. -/
def mergedEntries? : Node → Option (List (Node × Node))
  | .mapping _ _ merged true => some merged
  | _ => none

/-- The entries that a value under the merging key brings; of several mappings the first comes last,
so that it counts. -/
def broughtEntries? : Node → Option (List (Node × Node))
  | .sequence _ items => (items.reverse.mapM mergedEntries?).map List.flatten
  | n => n.mergedEntries?

/-- An entry as it counts when its mapping is not replaced by a scalar. -/
def asOwnEntry (e : Node × Node) : Node × Node :=
  if e.1.tag == .whole then (e.1.withTag .text, e.2) else e

/-- The mapping written by some entries. -/
def ofEntries (t : Tag) (entries : List (Node × Node)) : Node :=
  let (merging, own) := entries.partition fun e => e.1.tag == .merge
  let own := own.map asOwnEntry
  match merging.mapM fun e => e.2.broughtEntries? with
  | some brought => .mapping t entries (brought.flatten ++ own) true
  | none => .mapping t entries own false

mutual

/-- The text that stands for a node where a scalar is wanted: its own, or that of the value under
the key for the whole mapping. -/
def scalarText? : Node → Option (List Char)
  | .scalar _ text => some text
  | .sequence _ _ => none
  | .mapping _ entries _ _ => wholeText? entries

/-- The text of the value under the key for the whole mapping. -/
def wholeText? : List (Node × Node) → Option (List Char)
  | [] => none
  | (k, v) :: rest => if k.tag == .whole then v.scalarText? else wholeText? rest

end

end Node

end LibraryCatalogue.Yaml
