import LibraryCatalogue.Error.Context
import LibraryCatalogue.Error.Kind
import LibraryCatalogue.Files.Sight
import LibraryCatalogue.Pattern.Fault
import LibraryCatalogue.Schema.Fault
import LibraryCatalogue.Value.Written

/-!
# Errors and failures

An error says why a definition cannot be used: a reason, a category, a context and possibly a
cause.  A failure is whatever stops an operation; errors are the failures that the library foresees.

* `Reason` — why a definition cannot be used, with its wording in `Reason.message`;
* `Cause` — what was underneath; the details of syntax and schema faults travel as data, and the
  wording only marks their place;
* `Error`, `Error.record` — an error, and the form in which it is logged;
* `Failure`, `Failure.kind` — whatever stops an operation;
* `Failure.ofFinding`, `Failure.misfit` — the failures of checks, of entries with a title among them;
* `attempt` — an operation with failures of some kinds handed back as values.
-/

namespace LibraryCatalogue

/-- Why a definition, or a part of it, cannot be used.  The first four are a caller's own words. -/
inductive Reason where
  | general (message : String)
  | config (message : String)
  | parse (message : String)
  | inconsistent (message : String)
  | sourceNotFound (path : String)
  | unknownMode (subject mode : String) (supported : List String)
  | formatUnsupported (suffix : String) (supported : List String)
  | sourceUnreadable (path : String) (fault : FileFault)
  | yamlMalformed (path : String)
  | xmlMalformed (path : String)
  | rootNotMapping (path : String) (kind : String)
  | documentMismatch (path : String)
  | catalogueMalformed (title : Value)
  | specialMappingsMalformed (title : Value)
  | doctypeMalformed (title : Value)
  | patternMalformed (tag subtag value : String) (fault : Pattern.Fault)
  | doctypeNotConfigured (title : String)
deriving Repr

/-- The mark that stands in a wording for the details of a syntax or schema fault. -/
def causeMark : String := "<cause>"

namespace Reason

/-- The kind of error that a reason makes. -/
def kind : Reason → Kind
  | .general _ => .general
  | .config _ | .sourceUnreadable _ _ => .config
  | .inconsistent _ | .doctypeNotConfigured _ => .inconsistent
  | .sourceNotFound _ => .sourceNotFound
  | .unknownMode _ _ _ => .unknownMode
  | _ => .parse

/-- The wording of a reason. -/
def message : Reason → String
  | .general m | .config m | .parse m | .inconsistent m => m
  | .sourceNotFound path => "Configuration file not found: " ++ path
  | .unknownMode subject mode supported =>
    "Unknown " ++ subject ++ " mode '" ++ mode ++ "'. Supported: " ++ ", ".intercalate supported
  | .formatUnsupported suffix supported =>
    "Unsupported configuration format '" ++ suffix ++ "'. Supported: " ++
      ", ".intercalate supported
  | .sourceUnreadable path fault =>
    "Cannot read configuration file " ++ path ++ ": " ++ fault.message
  | .yamlMalformed path => "Invalid YAML in " ++ path ++ ": " ++ causeMark
  | .xmlMalformed path => "Invalid XML in " ++ path ++ ": " ++ causeMark
  | .rootNotMapping path kind => "Expected a mapping at the root of " ++ path ++ ", got " ++ kind
  | .documentMismatch path =>
    "Configuration " ++ path ++ " does not match the catalogue schema: " ++ causeMark
  | .catalogueMalformed title =>
    "Catalogue '" ++ title.shownFrozen ++ "' is malformed: " ++ causeMark
  | .specialMappingsMalformed title =>
    "Special mappings of catalogue '" ++ title.shownFrozen ++ "' are malformed: " ++ causeMark
  | .doctypeMalformed title =>
    "Document type '" ++ title.shownFrozen ++ "' is malformed: " ++ causeMark
  | .patternMalformed tag subtag value fault =>
    "Condition on " ++ tag ++ "/" ++ subtag ++ " has an invalid pattern " ++ quoted value ++ ": " ++
      fault.message
  | .doctypeNotConfigured title =>
    "Document type '" ++ title ++ "' is referenced but not configured"

end Reason

/-- What was underneath an error. -/
inductive Cause where
  | yaml
  | xml
  | schema (invalid : Schema.Invalid)
  | pattern (fault : Pattern.Fault)
  | file (fault : FileFault)
  | foreign (kind : Kind) (message : String)
deriving Repr

/-- The text of a failure of some kind: a missing key is quoted. -/
def foreignText (kind : Kind) (message : String) : String :=
  if kind == .key then quoted message else message

/-- The wording of a cause. -/
def Cause.text : Cause → String
  | .yaml | .xml | .schema _ => causeMark
  | .pattern fault => fault.message
  | .file fault => fault.message
  | .foreign kind message => foreignText kind message

/-- An error. -/
structure Error where
  reason : Reason
  category : Category
  context : Context
  cause : Option Cause
deriving Repr

namespace Error

/-- The error made by a reason, in the category of its kind. -/
def ofReason (r : Reason) (cause : Option Cause) : Error :=
  ⟨r, r.kind.defaultCategory, .empty, cause⟩

/-- The kind of an error. -/
def kind (e : Error) : Kind := e.reason.kind

/-- The wording of an error. -/
def message (e : Error) : String := e.reason.message

/-- A caller's own error.  An error about a missing source names the source in its context. -/
def make (reason : Reason) (category : Option Category) (context : Context)
    (cause : Option Cause) : Error where
  reason
  category := category.getD reason.kind.defaultCategory
  context := match reason with
    | .sourceNotFound path => context.withSource path
    | _ => context
  cause

/-- Writes names into the context of an error, in order. -/
def withContext (e : Error) : List (String × Value) → Except Context.Refused Error
  | [] => .ok e
  | (n, v) :: rest => do
    let c ← e.context.write n v
    { e with context := c }.withContext rest

/-- The error with its source path set. -/
def withSource (e : Error) (path : String) : Error :=
  { e with context := e.context.withSource path }

/-- The error with the catalogue set that it is about. -/
def withCatalogue (e : Error) (title : Value) : Error :=
  { e with context := { e.context with catalogue := title } }

/-- The error with the document type set that it is about. -/
def withDoctype (e : Error) (title : Value) : Error :=
  { e with context := { e.context with doctype := title } }

/-- The error in the form in which it is logged, unless its context cannot be shown. -/
def record? (e : Error) : Option Value := do
  let context ← e.context.entries?
  let asMap := context.map fun (n, v) => (Value.text n, v)
  some (.map ([(.text "error_type", .text e.kind.name), (.text "message", .text e.message),
      (.text "category", .text e.category.name)] ++
    (if context.isEmpty then [] else [(.text "context", .map asMap)]) ++
    match e.cause with
    | some c => [(.text "cause", .text c.text)]
    | none => []))

/-- The written form of an error. -/
def written (e : Error) : String :=
  e.kind.name ++ "(" ++ quoted e.message ++ ", category=" ++ e.category.name ++ ")"

/-- An error that a configuration source could not be found. -/
def sourceNotFound (path : String) (cause : Option Cause) : Error :=
  (ofReason (.sourceNotFound path) cause).withSource path

end Error

/-- Whatever stops an operation. -/
inductive Failure where
  | error (e : Error)
  | invalid (i : Schema.Invalid)
  | unwritable
  | xml
  | pattern (r : Pattern.Refusal)
  | file (f : FileFault)
  | undecodable
  | unbuildable
  | unmodelled
  | nameClash (name : String)
  | notIterable (kind : String)
  | levelUnknown (name : String)
  | contextRefused (r : Context.Refused)
  | contextHidden
  | foreign (kind : Kind) (message : String)
deriving Repr

namespace Failure

/-- The kind of a failure of the system. -/
def fileKind : FileProblem → Kind
  | .notFound => .fileNotFound
  | .notDirectory => .notDirectory
  | .isDirectory => .isDirectory
  | .denied => .denied
  | .nameTooLong | .other _ _ => .system

/-- The kind of a failure. -/
def kind : Failure → Kind
  | .error e => e.kind
  | .invalid _ | .unwritable | .unbuildable => .value
  | .xml | .unmodelled => .any
  | .pattern (.malformed _) => .pattern
  | .pattern .repetitionTooLarge | .pattern .codeTooLarge => .overflow
  | .pattern .alphabetsClash | .pattern .numberTooLong => .value
  | .file f => fileKind f.problem
  | .undecodable => .undecodable
  | .nameClash _ | .levelUnknown _ | .contextRefused .readOnly => .attribute
  | .notIterable _ | .contextHidden | .contextRefused .wrongType => .wrongType
  | .foreign k _ => k

/-- The text of a failure. -/
def message : Failure → String
  | .error e => e.message
  | .pattern (.malformed f) => f.message
  | .file f => f.message
  | .foreign k m => foreignText k m
  | _ => ""

/-- The written form of a failure. -/
def written : Failure → String
  | .error e => e.written
  | .foreign k m => k.name ++ "(" ++ quoted m ++ ")"
  | f => f.kind.name ++ "()"

/-- The failure of a check: what is reported of its faults, or that there was something that cannot be
written. -/
def ofFinding (schema : String) (report : Schema.Invalid → Failure) : Schema.Finding → Failure
  | .faults fs => report ⟨schema, fs⟩
  | .unwritable => .unwritable

/-- The failure of the check of an entry with a title: what is reported names the title, and nothing can
be reported when the title cannot be written. -/
def misfit (schema : String) (title : Value) (report : Schema.Invalid → Error) :
    Schema.Finding → Failure :=
  ofFinding schema fun i => if title.isWritable then .error (report i) else .unwritable

end Failure

/-- An operation with failures of the given kinds handed back as values. -/
def attempt {α : Type} (kinds : List Kind) (result : Except Failure α) :
    Except Failure (Except Failure α) :=
  match result with
  | .ok a => .ok (.ok a)
  | .error f => if kinds.any f.kind.isA then .ok (.error f) else .error f

end LibraryCatalogue
