import LibraryCatalogue.Definition
import LibraryCatalogue.Endpoint

/-!
# Looking things up in a definition

Titles are looked up in document order and the first match counts, so an entry whose title came
earlier is never seen.  All lookups of one question read the same definition.

* `Definition.endpoint?`, `Definition.endpoints` — one catalogue, and all of them;
* `Definition.check` — all catalogues, with the malformed ones reported one by one;
* `Definition.doctype?`, `Definition.doctypes` — one document type, and all of them;
* `Definition.resolve` — what a code means in a catalogue: its own special mappings come first, then
  the document types in order.
-/

namespace LibraryCatalogue

/-- What a code means: by a special mapping of the catalogue, by the general table, or nothing. -/
inductive Meaning where
  | special (d : DocumentType)
  | general (d : DocumentType)
  | unknown
deriving DecidableEq, Repr

/-- The document type that a code means. -/
def Meaning.doctype? : Meaning → Option DocumentType
  | .special d | .general d => some d
  | .unknown => none

namespace Definition

/-- The endpoint of a catalogue; none when it is not configured. -/
def endpoint? (d : Definition) (name : String) : Except Failure (Option Endpoint) :=
  match d.findCatalogue? name with
  | none => .ok none
  | some e => (Endpoint.ofEntry e.fields).map some

/-- The endpoints of all listed titles. -/
def endpoints (d : Definition) : Except Failure (List Endpoint) :=
  (d.catalogueTitles.mapM d.endpoint?).map (·.filterMap id)

/-- What became of one catalogue in a check. -/
abbrev Checkup := String × Except Failure Endpoint

/-- Looks one catalogue up; a malformed entry is reported as a value. -/
def checkOne (d : Definition) (title : String) : Except Failure (Option Checkup) :=
  (attempt [.parse] (d.endpoint? title)).map fun
    | .ok e? => e?.map fun e => (title, .ok e)
    | .error f => some (title, .error f)

/-- Looks every title up once, in the order of their first entries. -/
def check (d : Definition) : Except Failure (List Checkup) :=
  (d.catalogueTitles.eraseDups.mapM d.checkOne).map (·.filterMap id)

/-- A document type; none when it is not configured. -/
def doctype? (d : Definition) (title : String) : Except Failure (Option DocumentType) :=
  match d.findDoctype? title with
  | none => .ok none
  | some e => (DocumentType.ofEntry e.fields).map some

/-- The error that a document type is referred to, by a catalogue or not, but not configured. -/
def notConfigured (d : Definition) (title : String) (catalogue : Value) : Error :=
  (((Error.ofReason (.doctypeNotConfigured title) none).withDoctype (.text title)).withCatalogue
    catalogue).withSource d.source

/-- A document type that something refers to. -/
def requireDoctype (d : Definition) (title : String) (catalogue : Value) :
    Except Failure DocumentType := do
  match ← d.doctype? title with
  | some t => return t
  | none => throw (.error (d.notConfigured title catalogue))

/-- The document types of all listed titles. -/
def doctypes (d : Definition) : Except Failure (List DocumentType) :=
  d.doctypeTitles.mapM (d.requireDoctype · .null)

/-- The first of some document types that has a code. -/
def firstWithCode (d : Definition) (code : String) :
    List String → Except Failure (Option DocumentType)
  | [] => .ok none
  | title :: rest => do
    let t ← d.requireDoctype title .null
    if t.hasCode code then return some t else firstWithCode d code rest

/-- The special mappings of a catalogue; none when it is not configured. -/
def specialMappings (d : Definition) (catalogue : String) : Except Failure (List SpecialMapping) :=
  match d.findCatalogue? catalogue with
  | none => .ok []
  | some e => specialMappingsOf e.fields

/-- What a code means in a catalogue. -/
def resolve (d : Definition) (code catalogue : String) : Except Failure Meaning := do
  match (← d.specialMappings catalogue).find? (·.code == code) with
  | some s =>
    return .special (← d.requireDoctype s.doctypeTitle (.text catalogue))
  | none =>
    match ← d.firstWithCode code d.doctypeTitles with
    | some t => return .general t
    | none => return .unknown

end Definition

end LibraryCatalogue
