import LibraryCatalogue.Beautify
import LibraryCatalogue.Log
import LibraryCatalogue.Registry

/-!
# Asking questions and fetching records, on the log

The library never talks to the network itself: a client fetches records, and whatever stops the
client passes through untouched.

* `Definition.askEndpoint`, `Definition.askCheck`, `Definition.askMeaning` — lookups that record what
  they found;
* `Request` — what a client is asked, and what is bound on the log while it works;
* `fetch` — looks a catalogue up, has a record fetched and applies the rules of the catalogue.
-/

namespace LibraryCatalogue

namespace Definition

/-- The event of a catalogue lookup that came to an end. -/
def endpointEvent (d : Definition) (name : String) : Option Endpoint → Event
  | none => ⟨"catalog.not_found", .debug,
      [("catalogue", .text name), ("version", .int d.version)]⟩
  | some e => ⟨"catalog.resolved", .debug,
      [("catalogue", .text name), ("version", .int d.version), ("actions", .int e.actions.length),
        ("special_mappings", .int e.specialMappings.length)]⟩

/-- The endpoint of a catalogue, on the log. -/
def askEndpoint (d : Definition) (name : String) : Logged (Option Endpoint) := do
  let e? ← Logged.silent (d.endpoint? name)
  Logged.record (d.endpointEvent name e?)
  return e?

/-- The titles that a check found malformed. -/
def failedTitles (results : List Checkup) : List String :=
  results.filterMap fun
    | (_, .ok _) => none
    | (title, .error _) => some title

/-- The check of all catalogues, on the log. -/
def askCheck (d : Definition) : Logged (List Checkup) := do
  let results ← Logged.silent d.check
  let failed := failedTitles results
  unless failed.isEmpty do
    Logged.record ⟨"catalog.check_failed", .warning,
      [("version", .int d.version), ("catalogues", .list (failed.map .text))]⟩
  return results

/-- The event of a code that was looked up. -/
def meaningEvent (code catalogue : String) : Meaning → Event
  | .special t => ⟨"doctype.special_mapping", .debug,
      [("catalogue", .text catalogue), ("code", .text code), ("doctype", .text t.title)]⟩
  | .general t => ⟨"doctype.global_mapping", .debug,
      [("catalogue", .text catalogue), ("code", .text code), ("doctype", .text t.title)]⟩
  | .unknown => ⟨"doctype.mapping_not_found", .debug,
      [("catalogue", .text catalogue), ("code", .text code)]⟩

/-- What a code means in a catalogue, on the log. -/
def askMeaning (d : Definition) (code catalogue : String) : Logged (Option DocumentType) := do
  let m ← Logged.silent (d.resolve code catalogue)
  Logged.record (meaningEvent code catalogue m)
  return m.doctype?

end Definition

/-- The event of a rule that was applied. -/
def Outcome.event (o : Outcome) : Event :=
  ⟨"beautify.rule_applied", .debug,
    [("index", .int o.index), ("tag", .text o.action.tag),
      ("subtag", (o.action.subtag.map .text).getD .null), ("mode", .text o.action.mode.name)]⟩

/-- The event of a record that went through the rules of a catalogue. -/
def Trace.event (t : Trace) : Event :=
  ⟨"record.normalized", .info,
    [("fields", .int t.fields.length), ("rules", .int t.outcomes.length),
      ("applied", .int t.appliedCount)]⟩

/-- What a client is asked, and what is bound on the log while it works. -/
structure Request where
  endpoint : Endpoint
  query : Value
  bound : Bindings
deriving Repr

/-- A client, which fetches the fields of one record. -/
abbrev Client := Request → Except Failure Fields

/-- Has a record fetched and applies the rules of the catalogue to it. -/
def Request.carryOut (r : Request) (client : Client) : Logged Fields := do
  let record ← Logged.silent (client r)
  let t ← Logged.silent ((trace record r.endpoint.actions).mapError .pattern)
  for o in t.outcomes.filter (·.applied) do
    Logged.record o.event
  Logged.record t.event
  return t.fields

/-- The result of fetching a record, what the client was asked, and what is bound afterwards. -/
structure Fetched where
  outcome : Logged (Option Fields)
  request : Option Request
  boundAfter : Bindings

/-- Looks a catalogue up, has a record fetched and applies the rules of the catalogue to it. -/
def fetch (client : Client) (catalogue : String) (query : Value) (bound : Bindings)
    (d : Logged Definition) : Fetched :=
  let lookup := (d.andThen (·.askEndpoint catalogue)).within bound
  match lookup.result with
  | .error f => ⟨⟨.error f, lookup.events⟩, none, bound⟩
  | .ok none =>
    let unknown : Event := ⟨"record.unknown_catalogue", .warning, [("catalogue", .text catalogue)]⟩
    ⟨⟨.ok none, lookup.events ++ [unknown.within bound]⟩, none, bound⟩
  | .ok (some e) =>
    let ((outcome, request), after) := withBindings [("catalogue", .text catalogue)]
      (fun b =>
        let r : Request := ⟨e, query, b⟩
        (((r.carryOut client).within b, r), b)) bound
    ⟨⟨outcome.result.map some, lookup.events ++ outcome.events⟩, some request, after⟩

end LibraryCatalogue
