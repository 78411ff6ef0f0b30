import LibraryCatalogue.Pattern.Reader
import LibraryCatalogue.Rule
import LibraryCatalogue.Schema.Entry

/-!
# Endpoints and document types

A catalogue entry that passes its schema is resolved: modes are recognised and patterns compiled,
rule by rule, a rule's own mode before its conditions and a condition's mode before its pattern.

* `Endpoint`, `SpecialMapping`, `DocumentType` — what entries resolve to;
* `Endpoint.ofEntry`, `DocumentType.ofEntry` — resolves an entry, or says why it cannot be;
* `specialMappingsOf` — the special mappings of a catalogue alone.
-/

namespace LibraryCatalogue

/-- In one catalogue, an external code means a document type. -/
structure SpecialMapping where
  code : String
  doctypeTitle : String
deriving DecidableEq, Repr

/-- A remote catalogue, and the rules that normalise its records. -/
structure Endpoint where
  title : String
  description : String
  address : String
  database : String
  port : Int
  charset : String
  userClauseSuffix : String
  actions : List Action
  specialMappings : List SpecialMapping
deriving DecidableEq, Repr

/-- A classification of bibliographic material, with its external codes. -/
structure DocumentType where
  title : String
  periodical : Bool
  multiVolume : Bool
  containedWork : Bool
  codes : List String
deriving DecidableEq, Repr

/-- Whether an external code means a document type. -/
def DocumentType.hasCode (d : DocumentType) (code : String) : Bool :=
  d.codes.contains code

/-- The character set of catalogues that name none. -/
def defaultCharset : String := "iso-8859-1"

/-- What joins a user clause to a query. -/
def userClauseSeparator : String := "&"

namespace Schema

/-- The condition that an entry writes. -/
def ConditionEntry.resolve (e : ConditionEntry) : Except Failure Condition := do
  match ConditionMode.modes.read e.mode with
  | .error r => .error (.error (Error.ofReason r none))
  | .ok mode =>
    match Pattern.compile (restoreSpaces e.value) with
    | .ok _ => .ok ⟨e.tag, normalSubtag e.subtag, e.value, mode⟩
    | .error (.malformed f) =>
      .error (.error (Error.ofReason (.patternMalformed e.tag ((normalSubtag e.subtag).getD "")
        e.value f) (some (.pattern f))))
    | .error r => .error (.pattern r)

/-- The action that an entry writes. -/
def RuleEntry.resolve (e : RuleEntry) : Except Failure Action :=
  match ActionMode.modes.read e.mode with
  | .error r => .error (.error (Error.ofReason r none))
  | .ok mode => do
    let conditions ← e.conditions.mapM ConditionEntry.resolve
    return ⟨e.tag, normalSubtag e.subtag, e.value, mode, conditions⟩

/-- The special mapping that an entry writes. -/
def SpecialMappingEntry.resolve (e : SpecialMappingEntry) : SpecialMapping :=
  ⟨e.code, e.doctypeTitle⟩

/-- The endpoint that an entry writes. -/
def CatalogueEntry.resolve (e : CatalogueEntry) : Except Failure Endpoint := do
  let actions ← e.rules.mapM RuleEntry.resolve
  let c := e.connection
  return {
    title := e.title
    description := c.description
    address := c.address
    database := c.database
    port := c.port
    charset := (c.charset.filter (· != "")).getD defaultCharset
    userClauseSuffix := if c.userClause.isEmpty then "" else userClauseSeparator ++ c.userClause
    actions
    specialMappings := e.specialMappings.map SpecialMappingEntry.resolve }

/-- The document type that an entry writes. -/
def DoctypeEntry.resolve (e : DoctypeEntry) : DocumentType :=
  ⟨e.title, e.periodical, e.multiVolume, e.containedWork, e.codes⟩

end Schema

/-- The title of an entry as it is written. -/
def rawTitle (fields : Entries) : Value :=
  (Value.get? fields "title").getD .null

/-- The error of a parsing failure, said to be about a catalogue; other failures are left alone. -/
def Failure.aboutCatalogue (title : Value) : Failure → Failure
  | .error e => if e.kind.isA .parse then .error (e.withCatalogue title) else .error e
  | f => f

/-- The failure of the check of a catalogue entry with a title. -/
def Endpoint.misfit (title : Value) : Schema.Finding → Failure :=
  Failure.misfit "CatalogueSpec" title fun i =>
    (Error.ofReason (.catalogueMalformed title) (some (.schema i))).withCatalogue title

/-- The endpoint of a catalogue entry. -/
def Endpoint.ofEntry (fields : Entries) : Except Failure Endpoint :=
  let title := rawTitle fields
  match Schema.CatalogueEntry.check (Value.map fields).thaw with
  | .error f => .error (misfit title f)
  | .ok e => e.resolve.mapError (·.aboutCatalogue title)

/-- The failure of the check of a document type with a title. -/
def DocumentType.misfit (title : Value) : Schema.Finding → Failure :=
  Failure.misfit "DoctypeSpec" title fun i =>
    (Error.ofReason (.doctypeMalformed title) (some (.schema i))).withDoctype title

/-- The document type of an entry. -/
def DocumentType.ofEntry (fields : Entries) : Except Failure DocumentType :=
  match Schema.DoctypeEntry.check (Value.map fields).thaw with
  | .error f => .error (misfit (rawTitle fields) f)
  | .ok e => .ok e.resolve

/-- The items of a value that can be gone through one by one: the characters of a text and the
bytes of a byte string count as items. -/
def Value.itemsOf? : Value → Option (List Value)
  | .list vs | .tuple vs | .set vs => some vs
  | .text s => some (s.toList.map fun c => .text (String.singleton c))
  | .bytes bs => some (bs.map fun b => .int b.toNat)
  | .map entries => some (entries.map (·.1))
  | _ => none

/-- The failure of the check of a special mapping of a catalogue with a title. -/
def SpecialMapping.misfit (title : Value) : Schema.Finding → Failure :=
  Failure.misfit "SpecialMappingSpec" title fun i =>
    (Error.ofReason (.specialMappingsMalformed title) (some (.schema i))).withCatalogue title

/-- The special mapping that an item is. -/
def SpecialMapping.ofItem (title item : Value) : Except Failure SpecialMapping :=
  match Schema.SpecialMappingEntry.check item with
  | .error f => .error (misfit title f)
  | .ok e => .ok e.resolve

/-- The special mappings of a catalogue entry.  Its other fields are not looked at. -/
def specialMappingsOf (fields : Entries) : Except Failure (List SpecialMapping) :=
  let written := ((Value.get? fields "specialmapping").getD .null).thaw.asList
  match written.itemsOf? with
  | none => .error (.notIterable written.kindName)
  | some vs => vs.mapM (SpecialMapping.ofItem (rawTitle fields))

end LibraryCatalogue
