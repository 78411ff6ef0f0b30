import LibraryCatalogue.Definition
import LibraryCatalogue.Source.Read

/-!
# Stores

A store keeps the last definition that was loaded from a path, and loads anew when the marker of the
file has changed.  The marker is taken before the file is read: a file that is written again in
between has another marker afterwards, so the next question loads it again.

* `Store` — the definition that is kept, how its file is read, and how often was loaded and read;
* `Store.takeMarker`, `Store.readContents`, `Store.publish` — the steps of a load;
* `Store.load`, `Store.get`, `Store.tryGet` — the definition at a path;
* `Store.invalidate` — forgets the definition that is kept.
-/

namespace LibraryCatalogue

/-- The definition kept for a path, what is made of the bytes of its file, the number of loads that
succeeded, and of attempts to read. -/
structure Store where
  path : Path
  fallbackToEmpty : Bool
  readers : Source.Readers
  cached : Option Definition
  version : Nat
  reads : Nat

namespace Store

/-- A store for a path from which nothing was loaded. -/
def ofPath (path : Path) (fallbackToEmpty : Bool) : Store :=
  ⟨path, fallbackToEmpty, .standard, none, 0, 0⟩

/-! ## Events -/

/-- The event that the file of a kept definition is gone. -/
def missingEvent (s : Store) (d : Definition) : Event :=
  ⟨"config.source_missing", .warning,
    [("path", .text s.path.text), ("version", .int d.version)]⟩

/-- The event that a document is malformed, and which definition stays. -/
def failedEvent (s : Store) (e : Error) : Event :=
  ⟨"config.parse_failed", .error,
    [("path", .text s.path.text), ("error", e.record?.getD .null),
      ("keeping_version", (s.cached.map fun d => .int d.version).getD .null)]⟩

/-- The event that a document is malformed, and counts as empty. -/
def emptyEvent (s : Store) (e : Error) : Event :=
  ⟨"config.parse_failed_using_empty", .error,
    [("path", .text s.path.text), ("error", e.record?.getD .null)]⟩

/-- The event that a definition was loaded, for the first time or anew. -/
def loadedEvent (s : Store) (anew : Bool) (d : Definition) : Event :=
  ⟨if anew then "config.reloaded" else "config.loaded", .info,
    [("path", .text s.path.text), ("version", .int d.version),
      ("catalogues", .int d.contents.catalogues.length),
      ("doctypes", .int d.contents.doctypes.length)]⟩

/-- The event that a kept definition was forgotten. -/
def invalidatedEvent (s : Store) : Event :=
  ⟨"config.invalidated", .debug, [("path", .text s.path.text)]⟩

/-! ## The steps of a load -/

/-- The first step: the marker of the file, which must be there. -/
def takeMarker (s : Store) (now : Sight) : Except Failure Marker :=
  match now.marker? with
  | .error f => .error (.file f)
  | .ok none => .error (.error (.sourceNotFound s.path.text none))
  | .ok (some m) => .ok m

/-- The contents of the file. -/
def parseContents (s : Store) (now : Sight) : Logged Contents := do
  let document ← Source.read s.readers s.path now.content
  Logged.silent (Contents.ofDocument document s.path.text)

/-- The second step: the contents of the file.  Malformed ones may count as empty. -/
def readContents (s : Store) (now : Sight) : Logged Contents :=
  let parsed := s.parseContents now
  match parsed.result with
  | .error (.error e) =>
    if !e.kind.isA .parse then parsed
    else if s.fallbackToEmpty then ⟨.ok .empty, parsed.events ++ [s.emptyEvent e]⟩
    else ⟨parsed.result, parsed.events ++ [s.failedEvent e]⟩
  | _ => parsed

/-- The definition that the next successful load makes. -/
def nextDefinition (s : Store) (m : Marker) (c : Contents) : Definition :=
  ⟨s.path.text, s.version + 1, some m, c⟩

/-- The third step: the store after contents were read under a marker taken before. -/
def publish (s : Store) (m : Marker) (c : Contents) : Store :=
  { s with cached := some (s.nextDefinition m c), version := s.version + 1 }

/-- The store after the file was read once more. -/
def countRead (s : Store) : Store :=
  { s with reads := s.reads + 1 }

/-- Loads the definition while nothing changes. -/
def load (s : Store) (now : Sight) : Logged Definition × Store :=
  match s.takeMarker now with
  | .error f => (Logged.silent (.error f), s)
  | .ok m =>
    let contents := s.readContents now
    match contents.result with
    | .error f => (⟨.error f, contents.events⟩, s.countRead)
    | .ok c =>
      let d := s.nextDefinition m c
      (⟨.ok d, contents.events ++ [s.loadedEvent s.cached.isSome d]⟩, (s.publish m c).countRead)

/-! ## Questions -/

/-- Whether a kept definition has to be loaded anew; one whose file is gone has not. -/
def isStale (s : Store) (d : Definition) (now : Sight) : Logged Bool :=
  match now.marker? with
  | .error f => Logged.silent (.error (.file f))
  | .ok none => ⟨.ok false, if d.marker.isSome then [s.missingEvent d] else []⟩
  | .ok (some m) => Logged.silent (.ok (some m != d.marker))

/-- The definition at the path of the store. -/
def get (s : Store) (now : Sight) : Logged Definition × Store :=
  match s.cached with
  | none => s.load now
  | some d =>
    let stale := s.isStale d now
    match stale.result with
    | .error f => (⟨.error f, stale.events⟩, s)
    | .ok false => (⟨.ok d, stale.events⟩, s)
    | .ok true =>
      let (loaded, s) := s.load now
      (⟨loaded.result, stale.events ++ loaded.events⟩, s)

/-- The definition at the path of the store, or the error about it as a value. -/
def tryGet (s : Store) (now : Sight) : Logged (Except Failure Definition) × Store :=
  let (r, s) := s.get now
  (⟨attempt [.config] r.result, r.events⟩, s)

/-- Forgets the definition that is kept. -/
def invalidate (s : Store) : Logged Unit × Store :=
  (Logged.record s.invalidatedEvent, { s with cached := none })

end Store

end LibraryCatalogue
