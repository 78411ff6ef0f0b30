import LibraryCatalogue.Error.Basic
import LibraryCatalogue.Text.Basic

/-!
# The log

* `Level`, `Event` — what is recorded;
* `Bindings` — details that are bound for a while and go into every event; `withBindings` binds
  names for the time of an operation and then removes them;
* `Logged` — the result of an operation, with the events it recorded on the way;
* `Threshold`, `Log.line` — which events are written, and what a written line holds.
-/

namespace LibraryCatalogue

/-- How important an event is. -/
inductive Level where
  | debug
  | info
  | warning
  | error
  | critical
deriving DecidableEq, Repr

namespace Level

/-- The name of a level. -/
def name : Level → String
  | .debug => "debug"
  | .info => "info"
  | .warning => "warning"
  | .error => "error"
  | .critical => "critical"

/-- Higher ranks are more important. -/
def rank : Level → Nat
  | .debug => 10
  | .info => 20
  | .warning => 30
  | .error => 40
  | .critical => 50

/-- All levels. -/
def all : List Level := [.debug, .info, .warning, .error, .critical]

end Level

/-- Details of an event, or bound for a while. -/
abbrev Bindings := List (String × Value)

namespace Bindings

/-- Binds a name; a name that is bound keeps its place. -/
def set (name : String) (value : Value) : Bindings → Bindings
  | [] => [(name, value)]
  | (n, v) :: rest => if n == name then (n, value) :: rest else (n, v) :: set name value rest

/-- Binds several names, in order. -/
def bind (bound : Bindings) (more : Bindings) : Bindings :=
  more.foldl (fun b (n, v) => b.set n v) bound

/-- Removes names. -/
def unbind (bound : Bindings) (names : List String) : Bindings :=
  bound.filter fun (n, _) => !names.contains n

/-- Adds what is bound under names that are not taken. -/
def orBound (fields bound : Bindings) : Bindings :=
  fields ++ bound.filter fun (n, _) => !(fields.map (·.1)).contains n

end Bindings

/-- Binds names for the time of an operation and removes them afterwards. -/
def withBindings {α : Type} (more : Bindings) (body : Bindings → α × Bindings)
    (bound : Bindings) : α × Bindings :=
  let (a, after) := body (bound.bind more)
  (a, after.unbind (more.map (·.1)))

/-- Something that happened. -/
structure Event where
  name : String
  level : Level
  fields : Bindings
deriving Repr

/-- An event with what was bound when it happened; its own fields come first. -/
def Event.within (bound : Bindings) (e : Event) : Event :=
  { e with fields := e.fields.orBound bound }

/-- The result of an operation, and the events it recorded on the way. -/
structure Logged (α : Type) where
  result : Except Failure α
  events : List Event
deriving Repr

namespace Logged

/-- An operation that records nothing. -/
def silent {α : Type} (r : Except Failure α) : Logged α :=
  ⟨r, []⟩

/-- Records an event. -/
def record (e : Event) : Logged Unit :=
  ⟨.ok (), [e]⟩

/-- One operation after another, when the first succeeds. -/
def andThen {α β : Type} (x : Logged α) (f : α → Logged β) : Logged β :=
  match x.result with
  | .ok a => ⟨(f a).result, x.events ++ (f a).events⟩
  | .error e => ⟨.error e, x.events⟩

instance : Monad Logged where
  pure a := silent (.ok a)
  bind := andThen

/-- The events of an operation with what was bound while it ran. -/
def within {α : Type} (bound : Bindings) (x : Logged α) : Logged α :=
  { x with events := x.events.map (Event.within bound) }

end Logged

/-! ## Written lines -/

/-- The least rank of the events that are written. -/
abbrev Threshold := Nat

/-- The capital letter that a character has; only letters whose capital is a plain one count. -/
def plainCapital (c : Char) : Char :=
  if c == 'ı' then 'I' else if c == 'ſ' then 'S' else c.toUpper

/-- The threshold that a name stands for, whatever its case. -/
def Threshold.ofName (name : String) : Except Failure Threshold :=
  match String.ofList (name.toList.map plainCapital) with
  | "CRITICAL" | "FATAL" => .ok 50
  | "ERROR" => .ok 40
  | "WARNING" | "WARN" => .ok 30
  | "INFO" => .ok 20
  | "DEBUG" => .ok 10
  | "NOTSET" => .ok 0
  | "BASIC_FORMAT" => .error (.foreign .key name)
  | _ => .error (.levelUnknown name)

namespace Log

/-- The name of the service in lines that name none. -/
def defaultService : String := "opac-spine"

/-- The threshold where none is given. -/
def defaultLevel : String := "INFO"

/-- Who writes a line, and for which service. -/
structure Writer where
  logger : String
  service : String
deriving DecidableEq, Repr

/-- The logger without a name of its own. -/
def rootLogger : String := "root"

/-- The names of details that ask for a trace and are not written themselves. -/
def traceNames : List String := ["stack_info", "exc_info"]

/-- The details of a written line: those of the event, with its name, its level and the logger over
them, and the service unless it was given. -/
def line (w : Writer) (e : Event) : Bindings :=
  let fields : Bindings := e.fields.filter fun (n, _) => !traceNames.contains n
  Bindings.orBound (fields.bind [("event", .text e.name), ("level", .text e.level.name),
    ("logger", .text w.logger)]) [("service", .text w.service)]

/-- Whether an event is written. -/
def isWritten (t : Threshold) (e : Event) : Bool :=
  t ≤ e.level.rank

/-- How many lines an event takes on a console: one, and one more for every line break in a text. -/
def consoleLines (e : Event) : Nat :=
  let breaks (s : String) := s.toList.count '\n'
  1 + breaks e.name + total (e.fields.map fun
    | (_, .text s) => breaks s
    | _ => 0)

/-- The text that a mapping key takes in a line. -/
def keyText? : Value → Option String
  | .text s => some s
  | .null => some "null"
  | .bool b => some (if b then "true" else "false")
  | .int i => some (toString i)
  | .float x => some x.text
  | _ => none

mutual

/-- The form that a value takes in a line: tuples are lists, and what has no form of its own is
written out. -/
def plain? : Value → Option Value
  | .list items | .tuple items => (plainItems? items).map .list
  | .map entries => (plainEntries? entries).map fun es => .map (Value.ofEntries es)
  | .bytes b => some (.text (Value.bytes b).written)
  | .date d => some (.text (Value.date d).written)
  | .moment t => some (.text (Value.moment t).written)
  | .set items => some (.text (Value.set items).written)
  | v => some v

/-- The forms of a row of values. -/
def plainItems? : List Value → Option (List Value)
  | [] => some []
  | v :: rest =>
    match plain? v, plainItems? rest with
    | some v, some vs => some (v :: vs)
    | _, _ => none

/-- The forms of the entries of a mapping. -/
def plainEntries? : Entries → Option Entries
  | [] => some []
  | (k, v) :: rest =>
    match keyText? k, plain? v, plainEntries? rest with
    | some k, some v, some es => some ((.text k, v) :: es)
    | _, _, _ => none

end

/-- The names under which the parts of a call are known, so that no detail can have them. -/
def reservedNames : List String := ["self", "event"]

/-- One event as a caller records it: with what is bound for its time alone. -/
structure Call where
  writer : Writer
  event : Event
  bound : Bindings
deriving Repr

/-- The event of a call, unless a detail has a reserved name. -/
def Call.event? (t : Threshold) (c : Call) : Except Failure Event :=
  let names := c.event.fields.map (·.1)
  let reserved := if isWritten t c.event then "method_name" :: reservedNames else reservedNames
  if names.any reserved.contains || (c.bound.map (·.1)).contains "self" then
    .error (.foreign .wrongType "")
  else .ok (c.event.within c.bound)

/-- The lines that some calls write. -/
def lines (t : Threshold) (calls : List Call) : Except Failure (List Value) := do
  let written ← calls.mapM fun c => do
    let e ← c.event? t
    if isWritten t e then
      match plain? (.map ((line c.writer e).map fun (n, v) => (.text n, v))) with
      | some v => return [v]
      | none => throw (.foreign .wrongType "")
    else return []
  return written.flatten

/-- The number of lines that some calls write on a console. -/
def consoleLineCount (t : Threshold) (calls : List Call) : Except Failure Nat := do
  let counts ← calls.mapM fun c => do
    let e ← c.event? t
    return if isWritten t e then consoleLines e else 0
  return total counts

end Log

end LibraryCatalogue
