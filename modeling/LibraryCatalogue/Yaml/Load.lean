import LibraryCatalogue.Text.Stream
import LibraryCatalogue.Yaml.Document

/-!
# Values of documents

Values are made level by level: a sequence or mapping exists before its parts do, so of several
faults the one that lies least deep is met first, and of those the first.

The text is read some characters at a time, and only when the tokens so far are used up; what breaks the
rules before a place that cannot be read is met first.

Three things are left out.  A node that contains itself has no value here, nor has a text with half a
character in it; such documents are `Fault.unmodelled`.  Nodes may lie in each other as deeply as they
like: no document is `Fault.tooDeep` here.  And a node that stands in several places is read anew in
each, so that a key `=` which counts as a text in its mapping does so there only.

* `Draft` — the value of a node, and the faults by the level at which they are met;
* `Node.draft` — the draft of a node;
* `readable` — the text of a file up to the first fault in it;
* `load` — the value of a file.
-/

namespace LibraryCatalogue.Yaml

/-- The value of a node, the fault met when it is made, and the first faults met when its parts are
made, and theirs, level by level. -/
structure Draft where
  value : Value
  now : Option Fault
  later : List (Option Fault)

namespace Draft

/-- A draft with a fault. -/
def failed (f : Fault) : Draft := ⟨.null, some f, []⟩

/-- The draft of a scalar. -/
def ofScalar (r : Except Fault Value) : Draft :=
  match r with
  | .ok v => ⟨v, none, []⟩
  | .error f => failed f

/-- The faults of two rows of levels; at each level the first row counts first. -/
def mergeLevels : List (Option Fault) → List (Option Fault) → List (Option Fault)
  | [], bs => bs
  | as, [] => as
  | a :: as, b :: bs => a.or b :: mergeLevels as bs

/-- The draft of something with parts: what is met while they are made, in order, and then what is
met in them. -/
def ofParts (value : Value) (met : List (Option Fault)) (parts : List Draft) : Draft where
  value
  now := none
  later := met.findSome? id :: parts.foldr (fun d levels => mergeLevels d.later levels) []

/-- The draft of something whose parts cannot be made. -/
def hollow (value : Value) : Draft :=
  ofParts value [some .malformed] []

/-- A sequence. -/
def ofItems (items : List Draft) : Draft :=
  ofParts (.list (items.map (·.value))) (items.map (·.now)) items

/-- What is met while an entry is made: in its key, which must be able to be one, and in its
value. -/
def metInEntry (e : Draft × Draft) : List (Option Fault) :=
  [e.1.now, if e.1.value.isKey then none else some .malformed, e.2.now]

/-- The values of entries. -/
def entryValues (entries : List (Draft × Draft)) : Entries :=
  Value.ofEntries (entries.map fun e => (e.1.value, e.2.value))

/-- A mapping, or a set of its keys. -/
def ofEntries (asSet : Bool) (entries : List (Draft × Draft)) : Draft :=
  let es := entryValues entries
  ofParts (if asSet then .set (es.map (·.1)) else .map es) (entries.flatMap metInEntry)
    (entries.flatMap fun e => [e.1, e.2])

/-- A sequence of pairs, up to the first item that is none. -/
def ofPairs (pairs : List (Option (Draft × Draft))) : Draft :=
  let complete := (pairs.takeWhile Option.isSome).filterMap id
  let met := complete.flatMap fun e => [e.1.now, e.2.now]
  let missing := if complete.length < pairs.length then [some Fault.malformed] else []
  ofParts (.list (complete.map fun e => .tuple [e.1.value, e.2.value])) (met ++ missing)
    (complete.flatMap fun e => [e.1, e.2])

/-- The value, or the fault that is met first. -/
def result (d : Draft) : Except Fault Value :=
  match (d.now :: d.later).findSome? id with
  | some f => .error f
  | none => .ok d.value

end Draft

namespace Node

mutual

/-- The draft of a node. -/
def draft : Node → Draft
  | .scalar tag text =>
    match tag with
    | .sequence | .pairs => .hollow (.list [])
    | .mapping => .hollow (.map [])
    | .set => .hollow (.set [])
    | tag => .ofScalar (tag.readScalar text)
  | .sequence tag items =>
    match tag with
    | .sequence => .ofItems (draftItems items)
    | .pairs => .ofPairs (draftPairs items)
    | .mapping => .hollow (.map [])
    | .set => .hollow (.set [])
    | _ => .failed .malformed
  | .mapping tag entries merged mergeable =>
    match tag with
    | .mapping =>
      if mergeable then .ofEntries false (draftEntries merged) else .hollow (.map [])
    | .set => if mergeable then .ofEntries true (draftEntries merged) else .hollow (.set [])
    | .sequence | .pairs => .hollow (.list [])
    | tag =>
      match wholeText? entries with
      | some text =>
        -- The form of a moment is looked for in the mapping itself, not in the scalar.
        if tag = .moment then .failed .notScalar else .ofScalar (tag.readScalar text)
      | none => .failed .malformed

/-- The drafts of a row of nodes. -/
def draftItems : List Node → List Draft
  | [] => []
  | n :: rest => n.draft :: draftItems rest

/-- The drafts of entries. -/
def draftEntries : List (Node × Node) → List (Draft × Draft)
  | [] => []
  | (k, v) :: rest => (k.draft, v.draft) :: draftEntries rest

/-- The drafts of items that are mappings with one entry each. -/
def draftPairs : List Node → List (Option (Draft × Draft))
  | [] => []
  | .mapping _ [(k, v)] _ _ :: rest => some (k.draft, v.draft) :: draftPairs rest
  | _ :: rest => none :: draftPairs rest

end

end Node

/-- The number of characters that are read at a time. -/
def readSize : Nat := 4096

/-- Parts of a text as they are looked at: the first two together. -/
def joinFirst : List (List Char) → List (List Char)
  | a :: b :: rest => (a ++ b) :: rest
  | parts => parts

/-- The text of some parts up to the first that cannot be read, and the fault there; what lies behind the
last part is given. -/
def readableParts (behind : Option Fault) : List (List Char) → List Char × Option Fault
  | [] => ([], behind)
  | part :: rest =>
    if part.all isReadable then
      let (cs, fault) := readableParts behind rest
      (part ++ cs, fault)
    else ([], some .malformed)

/-- The text of a file up to the first part of it that cannot be read, and the fault there.  Before
anything is looked at, two parts are read. -/
def readable (bytes : List UInt8) : List Char × Option Fault :=
  match TextStream.readAll readSize bytes with
  | ([_], false) => ([], some .undecodable)
  | (parts, complete) =>
    readableParts (if complete then none else some .undecodable) (joinFirst parts)

/-- The value of a file; a file without a document has none. -/
def load (bytes : List UInt8) : Except Fault Value := do
  let (cs, fault) := readable bytes
  match ← readDocument (← Cursor.start cs fault) with
  | none => return .null
  | some n => n.draft.result

end LibraryCatalogue.Yaml
