import LibraryCatalogue.Files.Path
import LibraryCatalogue.Log
import LibraryCatalogue.Source.Element
import LibraryCatalogue.Yaml.Load

/-!
# Reading definition files

* `Format`, `Format.ofPath?` — the formats of definition files, told by the ends of their names;
* `Readers` — what is made of the bytes of a file;
* `readYaml`, `readXml` — the document that the bytes of a file hold;
* `read` — the document at a path, on the log, or why there is none.
-/

namespace LibraryCatalogue.Source

/-- The formats of definition files. -/
inductive Format where
  | yaml
  | xml
deriving DecidableEq, Repr

namespace Format

/-- How the names of the files of a format end. -/
def suffixes : Format → List String
  | .yaml => [".yaml", ".yml"]
  | .xml => [".xml"]

/-- How the names of definition files end, in order. -/
def supported : List String :=
  Format.xml.suffixes ++ Format.yaml.suffixes

/-- The format of the file at a path. -/
def ofPath? (p : Path) : Option Format :=
  [Format.yaml, .xml].find? fun f => f.suffixes.contains p.format

end Format

/-- What the readers of the two formats make of bytes. -/
structure Readers where
  yaml : List UInt8 → Except Yaml.Fault Value
  xml : List UInt8 → Except Xml.Refusal Xml.Element

/-- The readers of this library. -/
def Readers.standard : Readers := ⟨Yaml.load, Xml.parse⟩

/-- The error that the document at a path is none of its format. -/
def malformed (p : Path) (reason : Reason) (cause : Cause) : Failure :=
  .error ((Error.ofReason reason (some cause)).withSource p.text)

/-- The error that the document at a path is not a mapping. -/
def notMapping (p : Path) (v : Value) : Failure :=
  let e := (Error.ofReason (.rootNotMapping p.text v.kindName) none).withSource p.text
  .error { e with context := { e.context with fieldPath := .text "root" } }

/-- The failure that a fault in a document at a path makes. -/
def ofFault (p : Path) : Yaml.Fault → Failure
  | .malformed => malformed p (.yamlMalformed p.text) .yaml
  | .undecodable => .undecodable
  | .noSuchValue => .unbuildable
  | .tooLarge => .foreign .overflow ""
  | .wordUnknown => .foreign .key ""
  | .noDigits => .foreign .index ""
  | .notMoment => .foreign .attribute ""
  | .notScalar => .foreign .wrongType ""
  | .tooDeep => .foreign .recursion ""
  | .unmodelled => .unmodelled

/-- The document that bytes hold in lines of keys and values; nothing at all counts as empty. -/
def readYaml (r : Readers) (p : Path) (bytes : List UInt8) : Except Failure Entries :=
  match r.yaml bytes with
  | .error f => .error (ofFault p f)
  | .ok .null => .ok []
  | .ok (.map es) => .ok es
  | .ok v => .error (notMapping p v)

/-- The failure that a refused document at a path makes. -/
def ofRefusal (p : Path) : Xml.Refusal → Failure
  | .malformed => malformed p (.xmlMalformed p.text) .xml
  | .charsetUnknown => .foreign .lookup ""
  | .charsetMultiByte => .foreign .value ""
  | .charsetStrict => .foreign .unicode ""
  | .charsetUndecodable => .undecodable

/-- The document that bytes hold in elements; an outermost element that is only text counts as
empty. -/
def readXml (r : Readers) (p : Path) (bytes : List UInt8) : Except Failure Entries :=
  match r.xml bytes with
  | .error refusal => .error (ofRefusal p refusal)
  | .ok e =>
    match elementValue e with
    | .error name => .error (.nameClash name)
    | .ok (.map es) => .ok es
    | .ok _ => .ok []

/-- The document that bytes hold in a format. -/
def Format.read (f : Format) (r : Readers) (p : Path) (bytes : List UInt8) :
    Except Failure Entries :=
  match f with
  | .yaml => readYaml r p bytes
  | .xml => readXml r p bytes

/-- The error that the file at a path cannot be read. -/
def unreadable (p : Path) (fault : FileFault) : Error :=
  if fault.problem == .notFound then .sourceNotFound p.text (some (.file fault))
  else
    (Error.ofReason (.sourceUnreadable p.text fault) (some (.file fault))).withSource p.text

/-- The error that the file at a path has no known format. -/
def unsupported (p : Path) : Error :=
  (Error.ofReason (.formatUnsupported p.format Format.supported) none).withSource p.text

/-- The event of a document that was read. -/
def readEvent (p : Path) : Event :=
  ⟨"config.source_read", .debug,
    [("path", .text p.text), ("format", .text (String.ofList (p.format.toList.dropWhile (· == '.'))))]⟩

/-- The document at a path, whose content is given, or why there is none. -/
def document (r : Readers) (p : Path) (content : Except FileFault (List UInt8)) :
    Except Failure Entries :=
  match Format.ofPath? p with
  | none => .error (.error (unsupported p))
  | some f =>
    match content with
    | .error fault => .error (.error (unreadable p fault))
    | .ok bytes => f.read r p bytes

/-- The document at a path, whose content is given, on the log. -/
def read (r : Readers) (p : Path) (content : Except FileFault (List UInt8)) : Logged Entries := do
  let es ← Logged.silent (document r p content)
  Logged.record (readEvent p)
  return es

end LibraryCatalogue.Source
