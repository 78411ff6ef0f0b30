import LibraryCatalogue.Yaml.Layout
import LibraryCatalogue.Yaml.Node

/-!
# Documents

A text holds one document: directives, then one node, whose parts may be named by anchors and stand
again where their names do.

* `Reading`, `Reader` — the tokens that are left, and the names known so far;
* `readNode` — a node with all its parts;
* `readDocument` — the node of the only document of a text.
-/

namespace LibraryCatalogue.Yaml

/-- The tokens that are left and why there are not more, the nodes that have names, without those
that are not complete, and what the handles of tags stand for. -/
structure Reading where
  tokens : List Token
  fault : Option Fault
  anchors : List (String × Option Node)
  handles : List (String × String)

/-- A step of reading a document. -/
abbrev Reader := StateT Reading (Except Fault)

namespace Reader

/-- The token that comes next. -/
def peek : Reader Token := do
  match (← get).tokens with
  | t :: _ => return t
  | [] => throw ((← get).fault.getD .malformed)

/-- Passes the token that comes next. -/
def drop : Reader Unit :=
  modify fun s => { s with tokens := s.tokens.tail }

/-- Passes the token that comes next if it is a given one. -/
def accept (t : Token) : Reader Bool := do
  if (← peek) == t then
    drop
    return true
  else return false

/-- Passes the token that comes next, which must be a given one. -/
def expect (t : Token) : Reader Unit := do
  if !(← accept t) then throw .malformed

/-- The anchor and the tag in front of a node, in any order. -/
def properties : Reader (Option String × Option TagText) := do
  match ← peek with
  | .anchor a =>
    drop
    match ← peek with
    | .tag t =>
      drop
      return (some a, some t)
    | _ => return (some a, none)
  | .tag t =>
    drop
    match ← peek with
    | .anchor a =>
      drop
      return (some a, some t)
    | _ => return (none, some t)
  | _ => return (none, none)

/-- The name of a tag, with what its handle stands for. -/
def tagName (t : TagText) : Reader String := do
  match t.handle with
  | none => return t.rest
  | some handle =>
    match (← get).handles.lookup handle with
    | some first => return first ++ t.rest
    | none => throw .malformed

/-- The tag that leaves the kind of a node to its form. -/
def plainTagName : String := "!"

/-- The tag of a sequence or mapping. -/
def tagOr (name : Option String) (default : Tag) : Tag :=
  match name with
  | none => default
  | some n => if n == plainTagName then default else Tag.ofName n

/-- The tag of a scalar; without a name it is told by the form if the scalar is plain. -/
def scalarTag (name : Option String) (plain : Bool) (text : List Char) : Tag :=
  match name with
  | none => if plain then Tag.ofPlain text else .text
  | some n => if n == plainTagName then Tag.ofPlain text else Tag.ofName n

/-- Announces the node that will have a name; no name is given twice. -/
def announce (anchor : Option String) : Reader Unit := do
  match anchor with
  | none => return ()
  | some a =>
    let s ← get
    if (s.anchors.lookup a).isSome then throw .malformed
    set { s with anchors := (a, none) :: s.anchors }

/-- The node with a name, once it is complete. -/
def named (anchor : Option String) (n : Node) : Reader Node := do
  match anchor with
  | none => return n
  | some a =>
    modify fun s => { s with anchors := (a, some n) :: s.anchors }
    return n

/-- The node that stands where its name does.  A name that stands inside its own node would make the
node contain itself. -/
def aliased (name : String) : Reader Node := do
  match (← get).anchors.lookup name with
  | some (some n) => return n
  | some none => throw .unmodelled
  | none => throw .malformed

end Reader

open Reader

/-- What may follow the mark of an item that is left out. -/
def endsItemPart (indented : Bool) (t : Token) : Bool :=
  t == .item || t == .blockEnd || (!indented && (t == .key || t == .value))

/-- What may follow the mark of a key or value that is left out, in a block. -/
def endsEntryPart (t : Token) : Bool :=
  t == .key || t == .value || t == .blockEnd

/-- What may follow a key that is left out, between brackets. -/
def endsFlowKey (closing t : Token) : Bool :=
  t == .value || t == .separator || t == closing

/-- What may follow a value that is left out, between brackets. -/
def endsFlowValue (closing t : Token) : Bool :=
  t == .separator || t == closing

mutual

/-- A node.  In a block it may begin a block of its own; as a part of an entry it may be a sequence
whose items are not indented. -/
def readNode (inBlock asEntry : Bool) : Nat → Reader Node
  | 0 => throw .malformed
  | fuel + 1 => do
    match ← peek with
    | .alias name =>
      drop
      aliased name
    | _ =>
      let (anchor, written) ← properties
      let name ← written.mapM tagName
      let t ← peek
      if asEntry && t == .item then
        announce anchor
        named anchor (.sequence (tagOr name .sequence) (← readItems false fuel))
      else
        match t with
        | .scalar text plain =>
          drop
          announce anchor
          named anchor (.scalar (scalarTag name plain text) text)
        | .flowSequence =>
          announce anchor
          drop
          named anchor (.sequence (tagOr name .sequence) (← readFlowItems true fuel))
        | .flowMapping =>
          announce anchor
          drop
          named anchor (Node.ofEntries (tagOr name .mapping) (← readFlowEntries true fuel))
        | _ =>
          if inBlock && t == .blockSequence then
            announce anchor
            drop
            named anchor (.sequence (tagOr name .sequence) (← readItems true fuel))
          else if inBlock && t == .blockMapping then
            announce anchor
            drop
            named anchor (Node.ofEntries (tagOr name .mapping) (← readEntries fuel))
          else if anchor.isSome || name.isSome then
            announce anchor
            named anchor (.scalar (scalarTag name true []) [])
          else throw .malformed

/-- The node that follows a mark, unless the next token shows that it is left out. -/
def readPart (inBlock asEntry : Bool) (leftOut : Token → Bool) : Nat → Reader Node
  | 0 => throw .malformed
  | fuel + 1 => do
    if leftOut (← peek) then return .absent
    else readNode inBlock asEntry fuel

/-- The items of a sequence in a block. -/
def readItems (indented : Bool) : Nat → Reader (List Node)
  | 0 => throw .malformed
  | fuel + 1 => do
    if ← accept .item then
      let n ← readPart true false (endsItemPart indented) fuel
      return n :: (← readItems indented fuel)
    else if indented then
      expect .blockEnd
      return []
    else return []

/-- The entries of a mapping in a block. -/
def readEntries : Nat → Reader (List (Node × Node))
  | 0 => throw .malformed
  | fuel + 1 => do
    if ← accept .key then
      let k ← readPart true true endsEntryPart fuel
      let v ← if ← accept .value then readPart true true endsEntryPart fuel else pure .absent
      return (k, v) :: (← readEntries fuel)
    else
      expect .blockEnd
      return []

/-- The rest of an entry between brackets, after the mark of its key. -/
def readFlowEntry (closing : Token) : Nat → Reader (Node × Node)
  | 0 => throw .malformed
  | fuel + 1 => do
    let k ← readPart false false (endsFlowKey closing) fuel
    let v ←
      if ← accept .value then readPart false false (endsFlowValue closing) fuel
      else pure .absent
    return (k, v)

/-- The items of a sequence between brackets; an entry on its own makes a mapping. -/
def readFlowItems (first : Bool) : Nat → Reader (List Node)
  | 0 => throw .malformed
  | fuel + 1 => do
    if ← accept .flowSequenceEnd then return []
    else
      if !first then expect .separator
      if ← accept .key then
        let e ← readFlowEntry .flowSequenceEnd fuel
        return Node.ofEntries .mapping [e] :: (← readFlowItems false fuel)
      else if ← accept .flowSequenceEnd then return []
      else
        let n ← readNode false false fuel
        return n :: (← readFlowItems false fuel)

/-- The entries of a mapping between brackets; a node on its own is a key. -/
def readFlowEntries (first : Bool) : Nat → Reader (List (Node × Node))
  | 0 => throw .malformed
  | fuel + 1 => do
    if ← accept .flowMappingEnd then return []
    else
      if !first then expect .separator
      if ← accept .key then
        let e ← readFlowEntry .flowMappingEnd fuel
        return e :: (← readFlowEntries false fuel)
      else if ← accept .flowMappingEnd then return []
      else
        let k ← readNode false false fuel
        return (k, .absent) :: (← readFlowEntries false fuel)

end

/-- What handles stand for when nothing is said about them. -/
def knownHandles : List (String × String) :=
  [("!", "!"), ("!!", Tag.knownNames)]

/-- What a directive adds: at most one version, which must be a first one, and each handle once. -/
def addDirective (known : Option Nat × List (String × String)) (d : Directive) :
    Reader (Option Nat × List (String × String)) := do
  let (version, handles) := known
  match d with
  | .version major _ =>
    if version.isSome || major != 1 then throw .malformed
    return (some major, handles)
  | .handle handle first =>
    if (handles.lookup handle).isSome then throw .malformed
    return (version, (handle, first) :: handles)
  | .other => return known

/-- The directives that come next. -/
def leadingDirectives : List Token → List Directive
  | .directive d :: rest => d :: leadingDirectives rest
  | _ => []

/-- The directives in front of a document. -/
def readDirectives : Reader Unit := do
  let s ← get
  let directives := leadingDirectives s.tokens
  let (_, handles) ← directives.foldlM addDirective (none, [])
  set { s with tokens := s.tokens.drop directives.length, handles := handles ++ knownHandles }

/-- Whether a token shows that a document has no node. -/
def endsDocument : Token → Bool
  | .directive _ | .documentStart | .documentEnd | .textEnd => true
  | _ => false

/-- The node of the first document, if there is one. -/
def readFirst (fuel : Nat) : Reader (Option Node) := do
  let t ← peek
  if t == .textEnd then return none
  else if endsDocument t && t != .documentEnd then
    readDirectives
    expect .documentStart
    return some (← readPart true false endsDocument fuel)
  else return some (← readNode true false fuel)

/-- The end of the text, after any number of marks that end a document. -/
def readEnd : Nat → Reader Unit
  | 0 => throw .malformed
  | fuel + 1 => do
    if ← accept .documentEnd then readEnd fuel
    else if (← peek) == .textEnd then return ()
    else
      readDirectives
      let _ ← peek
      throw .malformed

/-- The node of the only document of a text, if it has one. -/
def readDocument (p : Cursor) : Except Fault (Option Node) := do
  let (tokens, fault) := Layout.tokens p
  let fuel := 4 * tokens.length + 4
  let (node, rest) ← (readFirst fuel).run ⟨tokens, fault, [], knownHandles⟩
  let _ ← (readEnd (tokens.length + 1)).run rest
  return node

end LibraryCatalogue.Yaml
