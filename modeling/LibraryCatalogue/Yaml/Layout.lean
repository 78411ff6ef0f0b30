import LibraryCatalogue.Yaml.Block
import LibraryCatalogue.Yaml.Plain
import LibraryCatalogue.Yaml.Token

/-!
# Layout

Indentation opens and closes blocks, and a colon makes a key of what stands before it in the line.
Both are made explicit by tokens that are not written: a key is marked when its colon is met, which
is why tokens wait until nothing in front of them can become a key any more.

* `KeyPlace` — a token that may turn out to begin a key;
* `Layout` — the state between two tokens;
* `Layout.advance` — the next written token, with those that the layout implies;
* `Layout.tokens` — the tokens of a text up to the first fault.
-/

namespace LibraryCatalogue.Yaml

/-- A token that may turn out to begin a key: how many brackets are open around it, its number among
all tokens, whether it has to begin a key, and where it stands. -/
structure KeyPlace where
  depth : Nat
  number : Nat
  required : Bool
  place : Cursor
deriving Repr

/-- The state between two tokens. -/
structure Layout where
  place : Cursor
  /-- The number of brackets that are open. -/
  depth : Nat
  /-- The columns of the blocks that are open, innermost first. -/
  columns : List Nat
  /-- The tokens that wait, in order. -/
  waiting : List Token
  /-- The number of tokens that no longer wait. -/
  passed : Nat
  /-- Whether a key may begin here. -/
  mayBeginKey : Bool
  /-- The tokens that may turn out to begin a key, at most one at each depth. -/
  keyPlaces : List KeyPlace
  ended : Bool
deriving Repr

/-- The greatest number of characters that a key without a mark of its own may have. -/
def keyLimit : Nat := 1024

/-- Whether a token at `k` can still begin a key when the text has been read up to `p`. -/
def KeyPlace.isOpen (k : KeyPlace) (p : Cursor) : Bool :=
  k.place.line == p.line && p.index - k.place.index ≤ keyLimit

namespace Layout

/-- The state in front of a text. -/
def start (place : Cursor) : Layout where
  place
  depth := 0
  columns := []
  waiting := []
  passed := 0
  mayBeginKey := true
  keyPlaces := []
  ended := false

/-- Adds tokens to those that wait. -/
def push (s : Layout) (ts : List Token) : Layout :=
  { s with waiting := s.waiting ++ ts }

/-- The column of the innermost block, plus one; zero outside of blocks. -/
def floor (s : Layout) : Nat :=
  match s.columns with
  | [] => 0
  | c :: _ => c + 1

/-- Gives up the places whose line is over; one that has to begin a key must not be among them. -/
def dropClosed (s : Layout) : Except Fault Layout :=
  if s.keyPlaces.any fun k => k.required && !k.isOpen s.place then .error .malformed
  else .ok { s with keyPlaces := s.keyPlaces.filter fun k => k.isOpen s.place }

/-- Gives up the place at the depth at hand; it must not have to begin a key. -/
def dropHere (s : Layout) : Except Fault Layout :=
  if s.keyPlaces.any fun k => k.depth == s.depth && k.required then .error .malformed
  else .ok { s with keyPlaces := s.keyPlaces.filter fun k => k.depth != s.depth }

/-- Notes that the token that comes next may begin a key, where a key may begin. -/
def noteKey (s : Layout) : Except Fault Layout :=
  if s.mayBeginKey then do
    let place : KeyPlace :=
      { depth := s.depth
        number := s.passed + s.waiting.length
        required := s.depth == 0 && s.columns.head? == some s.place.column
        place := s.place }
    let s ← s.dropHere
    return { s with keyPlaces := place :: s.keyPlaces }
  else return s

/-- Closes the blocks whose column satisfies `closes`; between brackets there are none. -/
def closeBlocks (s : Layout) (closes : Nat → Bool) : Layout :=
  if s.depth != 0 then s
  else
    let closed := s.columns.takeWhile closes
    { s with
      columns := s.columns.drop closed.length
      waiting := s.waiting ++ closed.map fun _ => .blockEnd }

/-- Whether a block at a column lies deeper than the innermost one. -/
def opensBlock (s : Layout) (column : Nat) : Bool :=
  s.columns.head?.all (· < column)

/-- Opens a block at the column at hand unless it is open. -/
def openBlock (s : Layout) (opening : Token) : Layout :=
  if s.opensBlock s.place.column then
    { s with columns := s.place.column :: s.columns }.push [opening]
  else s

/-- Skips white space and comments; in a new line outside brackets a key may begin.  The first
argument bounds the number of lines. -/
def skipGapFrom : Nat → Layout → Except Fault Layout
  | 0, s => .ok s
  | fuel + 1, s => do
    let p ← (← s.place.skipSpaces).skipComment
    match ← p.break? with
    | some (_, p) =>
      skipGapFrom fuel { s with place := p, mayBeginKey := s.mayBeginKey || s.depth == 0 }
    | none => return { s with place := p }

/-- Skips white space and comments, and a mark of byte order that begins the text. -/
def skipGap (s : Layout) : Except Fault Layout := do
  let s ← if s.place.index == 0 && s.place.rest.head? == some byteOrderMark then
      pure { s with place := ← s.place.next }
    else pure s
  skipGapFrom (s.place.rest.length + 1) s

/-- A token of `n` characters that ends all blocks. -/
def outermost (s : Layout) (t : Token) (n : Nat) : Except Fault Layout := do
  let s ← (s.closeBlocks fun _ => true).dropHere
  return { s.push [t] with place := ← s.place.skip n, mayBeginKey := false }

/-- A token that may begin a key, with the place after it. -/
def nodePart (s : Layout) (read : Cursor → Except Fault (Token × Cursor)) :
    Except Fault Layout := do
  let s ← s.noteKey
  let (t, p) ← read s.place
  return { s.push [t] with place := p, mayBeginKey := false }

/-- The end of the text. -/
def atEnd (s : Layout) : Except Fault Layout := do
  let s ← s.outermost .textEnd 0
  return { s with keyPlaces := [], ended := true }

/-- A directive. -/
def atDirective (s : Layout) : Except Fault Layout := do
  let s ← (s.closeBlocks fun _ => true).dropHere
  let (d, p) ← readDirective s.place
  return { s.push [.directive d] with place := p, mayBeginKey := false }

/-- An opening bracket. -/
def atOpening (s : Layout) (t : Token) : Except Fault Layout := do
  let s ← s.noteKey
  return { s.push [t] with place := ← s.place.next, depth := s.depth + 1, mayBeginKey := true }

/-- A closing bracket. -/
def atClosing (s : Layout) (t : Token) : Except Fault Layout := do
  let s ← s.dropHere
  return { s.push [t] with place := ← s.place.next, depth := s.depth - 1, mayBeginKey := false }

/-- A comma between brackets. -/
def atSeparator (s : Layout) : Except Fault Layout := do
  let s ← s.dropHere
  return { s.push [.separator] with place := ← s.place.next, mayBeginKey := true }

/-- The state in front of a mark that is written before a node.  Outside brackets it stands where a
key may begin, and opens a block. -/
def beforeMark (s : Layout) (opening : Token) : Except Fault Layout :=
  if s.depth != 0 then .ok s
  else if s.mayBeginKey then .ok (s.openBlock opening)
  else .error .malformed

/-- The mark of an item. -/
def atItem (s : Layout) : Except Fault Layout := do
  let s ← (← s.beforeMark .blockSequence).dropHere
  return { s.push [.item] with place := ← s.place.next, mayBeginKey := true }

/-- The mark of a key. -/
def atKey (s : Layout) : Except Fault Layout := do
  let s ← (← s.beforeMark .blockMapping).dropHere
  return { s.push [.key] with place := ← s.place.next, mayBeginKey := s.depth == 0 }

/-- Marks the token at `k` as the beginning of a key, which outside brackets opens a block. -/
def markKey (s : Layout) (k : KeyPlace) : Layout :=
  let opens := s.depth == 0 && s.opensBlock k.place.column
  let marks := if opens then [Token.blockMapping, .key] else [.key]
  let n := k.number - s.passed
  { s with
    columns := if opens then k.place.column :: s.columns else s.columns
    waiting := s.waiting.take n ++ marks ++ s.waiting.drop n
    keyPlaces := s.keyPlaces.filter fun k => k.depth != s.depth }

/-- The mark of a value: what stands before it in the line is its key, unless the key had a mark of
its own or is left out. -/
def atValue (s : Layout) : Except Fault Layout := do
  match s.keyPlaces.find? fun k => k.depth == s.depth with
  | some k =>
    return { (s.markKey k).push [.value] with place := ← s.place.next, mayBeginKey := false }
  | none =>
    let s ← s.beforeMark .blockMapping
    return { s.push [.value] with place := ← s.place.next, mayBeginKey := s.depth == 0 }

/-- A block scalar. -/
def atBlock (s : Layout) (fold : Bool) : Except Fault Layout := do
  let s ← s.dropHere
  let (text, p) ← readBlock fold (max s.floor 1) s.place
  return { s.push [.scalar text false] with place := p, mayBeginKey := true }

/-- A plain scalar. -/
def atPlain (s : Layout) : Except Fault Layout := do
  let s ← s.noteKey
  let plain ← readPlain (s.depth != 0) s.floor s.place
  return { s.push [.scalar plain.text true] with
    place := plain.after
    mayBeginKey := plain.atNewLine }

/-- Whether a plain scalar may begin with a character. -/
def beginsPlain (s : Layout) (c : Char) : Except Fault Bool := do
  if !(isGap c || isOneOf "-?:,[]\x7b\x7d#&*!|>'\"%@\x60" c) then return true
  else
    let after ← s.place.charAt 1
    return !endsItem after && (c == '-' || (s.depth == 0 && (c == '?' || c == ':')))

/-- The token that begins with a character. -/
def atChar (s : Layout) (c : Char) : Except Fault Layout := do
  let lineStart := s.place.column == 0
  -- Between brackets the marks of keys and values need no blank behind them.
  let isMark : Except Fault Bool := do
    if s.depth != 0 then return true else return endsItem (← s.place.charAt 1)
  if c == '%' && lineStart then return ← s.atDirective
  if c == '-' && lineStart then
    if ← s.place.meetsMark documentStartMark then return ← s.outermost .documentStart 3
  if c == '.' && lineStart then
    if ← s.place.meetsMark documentEndMark then return ← s.outermost .documentEnd 3
  if c == '[' then s.atOpening .flowSequence
  else if c == '\x7b' then s.atOpening .flowMapping
  else if c == ']' then s.atClosing .flowSequenceEnd
  else if c == '\x7d' then s.atClosing .flowMappingEnd
  else if c == ',' then s.atSeparator
  else if c == '-' && endsItem (← s.place.charAt 1) then s.atItem
  else if c == '?' && (← isMark) then s.atKey
  else if c == ':' && (← isMark) then s.atValue
  else if c == '*' then s.nodePart fun p => do
    let (name, p) ← readAnchorName p
    return (.alias name, p)
  else if c == '&' then s.nodePart fun p => do
    let (name, p) ← readAnchorName p
    return (.anchor name, p)
  else if c == '!' then s.nodePart fun p => do
    let (t, p) ← readTag p
    return (.tag t, p)
  else if c == '|' && s.depth == 0 then s.atBlock false
  else if c == '>' && s.depth == 0 then s.atBlock true
  else if c == '\'' || c == '"' then s.nodePart fun p => do
    let (text, p) ← readQuoted c p
    return (.scalar text false, p)
  else if ← s.beginsPlain c then s.atPlain
  else throw .malformed

/-- The state after the next written token and those that the layout implies. -/
def advance (s : Layout) : Except Fault Layout := do
  let s ← (← s.skipGap).dropClosed
  let s := s.closeBlocks (s.place.column < ·)
  match s.place.rest with
  | [] => s.atEnd
  | c :: _ => s.atChar c

/-- Whether a token that waits first can still turn out to begin a key. -/
def mustWait (s : Layout) : Bool :=
  s.keyPlaces.any fun k => k.number == s.passed

/-- The tokens from a state on, up to the first fault; the first argument bounds the number of
steps. -/
def tokensFrom : Nat → Layout → List Token × Option Fault
  | 0, _ => ([], some .malformed)
  | fuel + 1, s =>
    if s.ended then (s.waiting, none)
    else
      match s.waiting with
      | [] =>
        match s.advance with
        | .error f => ([], some f)
        | .ok s => tokensFrom fuel s
      | t :: waiting =>
        match s.dropClosed with
        | .error f => ([], some f)
        | .ok s =>
          if s.mustWait then
            match s.advance with
            | .error f => ([], some f)
            | .ok s => tokensFrom fuel s
          else
            let (ts, fault) := tokensFrom fuel { s with waiting, passed := s.passed + 1 }
            (t :: ts, fault)

/-- The tokens of a text, up to the first fault if there is one. -/
def tokens (p : Cursor) : List Token × Option Fault :=
  tokensFrom (8 * (p.rest.length + 4)) (start p)

end Layout

end LibraryCatalogue.Yaml
