import LibraryCatalogue.Error.Basic
import LibraryCatalogue.Files.Sight
import LibraryCatalogue.Schema.Scalar

/-!
# Definitions

When a definition is loaded only its outline is checked: where the entries are, and that each has a
title.  The entries themselves are kept, frozen, in document order.

* `Entry` — one entry: its title as a text, and all that is written about it;
* `Contents.ofDocument` — the entries of a document, or why it is no definition;
* `Definition` — one load of a definition;
* `Definition.findCatalogue?`, `Definition.findDoctype?` — the first entry with a title.
-/

namespace LibraryCatalogue

/-- One entry of a definition. -/
structure Entry where
  title : String
  fields : Entries
deriving Repr

/-- The entry written by a mapping, with its title as checked. -/
def Entry.ofRaw (raw : Entries) (title : String) : Entry where
  title
  fields := Value.freezeEntries (Value.insert (.text "title") (.text title) raw)

namespace Schema

/-- The entries and the title of something that has a title. -/
def titled (v : Value) : Checked Entry := do
  let es ← mapping "_TitledEntry" v
  let title ← (field es "title" numericText).andFaults (foreignKeys es)
  return Entry.ofRaw es title

/-- The entries of a list of titled things, where one mapping or nothing may stand for a list. -/
def titledList (v : Value) : Checked (List Entry) :=
  listOf titled v.asList

/-- The document types of a document; an absent block has none. -/
def doctypesBlock : Value → Checked (List Entry)
  | .null => .ok []
  | v => do
    let es ← mapping "_DoctypesBlock" v
    (optional es "type" [] titledList).andFaults (foreignKeys es)

end Schema

/-- The entries of a definition, in document order. -/
structure Contents where
  catalogues : List Entry
  doctypes : List Entry
deriving Repr

namespace Contents

/-- The contents of a definition without entries. -/
def empty : Contents := ⟨[], []⟩

/-- Checks the outline of a document. -/
def check (document : Entries) : Schema.Checked Contents := do
  let (catalogues, doctypes) ←
    ((Schema.optional document "catalogue" [] Schema.titledList).both
      (Schema.optional document "doctypes" [] Schema.doctypesBlock)).andFaults
        (Schema.foreignKeys document)
  return ⟨catalogues, doctypes⟩

/-- The entries of a document, or the error that it is no definition. -/
def ofDocument (document : Entries) (source : String) : Except Failure Contents :=
  (check document).mapError (Failure.ofFinding "_DocumentSpec" fun i =>
    .error ((Error.ofReason (.documentMismatch source) (some (.schema i))).withSource source))

end Contents

/-- One load of a definition. -/
structure Definition where
  source : String
  version : Nat
  marker : Option Marker
  contents : Contents
deriving Repr

namespace Definition

/-- The titles of the catalogues, in document order. -/
def catalogueTitles (d : Definition) : List String :=
  d.contents.catalogues.map (·.title)

/-- The titles of the document types, in document order. -/
def doctypeTitles (d : Definition) : List String :=
  d.contents.doctypes.map (·.title)

/-- The first catalogue with a title. -/
def findCatalogue? (d : Definition) (title : String) : Option Entry :=
  d.contents.catalogues.find? (·.title == title)

/-- The first document type with a title. -/
def findDoctype? (d : Definition) (title : String) : Option Entry :=
  d.contents.doctypes.find? (·.title == title)

/-- Whether a definition has no entries. -/
def isEmpty (d : Definition) : Bool :=
  d.contents.catalogues.isEmpty && d.contents.doctypes.isEmpty

end Definition

end LibraryCatalogue
