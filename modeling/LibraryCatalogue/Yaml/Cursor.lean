/-!
# Places in a document

A document is looked at only as far as a step needs it.  Behind what has been read without a fault there
may be a fault, which is met as soon as a step looks that far; what was found before comes first.

* `Fault` — why a document gives no value;
* `isReadable` — the characters that a document may hold;
* `isBreak`, `isGap`, `endsLine`, `endsWord`, `endsItem` — breaks, white space, and what may follow
  a line, a word or an item;
* `Cursor` — the rest of a text together with where it begins: how many characters, and which line
  and column;
* `Cursor.charAt` — looking ahead;
* `Cursor.next`, `Cursor.skip`, `Cursor.span` — going forward, which looks at the character behind.
-/

namespace LibraryCatalogue.Yaml

/-- Why a document gives no value. -/
inductive Fault where
  /-- The text breaks the rules of the format. -/
  | malformed
  /-- The bytes write no text. -/
  | undecodable
  /-- A scalar is written like a value of its kind, but there is no such value. -/
  | noSuchValue
  /-- A number is too large for what it stands for. -/
  | tooLarge
  /-- A scalar is marked as a truth value, but its word is none. -/
  | wordUnknown
  /-- A scalar is marked as a number, but nothing is left of it besides sign and separators. -/
  | noDigits
  /-- A scalar is marked as a moment, but is not written like one. -/
  | notMoment
  /-- Something is marked as a moment that is no scalar. -/
  | notScalar
  /-- Nodes lie in each other more deeply than a reader can follow. -/
  | tooDeep
  /-- What the document says is no value here: a node in it contains itself, or a text in it holds half
  a character. -/
  | unmodelled
deriving DecidableEq, Repr

/-- The characters that a document may hold: no controls other than tab and breaks. -/
def isReadable (c : Char) : Bool :=
  let n := c.toNat
  n == 0x09 || n == 0x0a || n == 0x0d || (0x20 ≤ n && n ≤ 0x7e) || n == 0x85 ||
    (0xa0 ≤ n && n ≤ 0xfffd) || 0x10000 ≤ n

/-- The characters that end a line. -/
def isBreak (c : Char) : Bool :=
  c == '\n' || c == '\x85' || c == '\u2028' || c == '\u2029'

/-- A blank: a space or a tab. -/
def isInlineGap (c : Char) : Bool :=
  c == ' ' || c == '\t'

/-- A blank or a break. -/
def isGap (c : Char) : Bool :=
  isInlineGap c || isBreak c

/-- Whether a line ends in front of a character, or at the end of the text. -/
def endsLine : Option Char → Bool
  | none => true
  | some c => isBreak c

/-- Whether a word ends in front of a character: a space or a break, or the end of the text. -/
def endsWord : Option Char → Bool
  | none => true
  | some c => c == ' ' || isBreak c

/-- Whether an item ends in front of a character: a blank or a break, or the end of the text. -/
def endsItem : Option Char → Bool
  | none => true
  | some c => isGap c

/-- Whether a character is one of some. -/
def isOneOf (set : String) (c : Option Char) : Bool :=
  c.any set.toList.contains

/-- The mark that starts a document. -/
def documentStartMark : List Char := ['-', '-', '-']

/-- The mark that ends a document. -/
def documentEndMark : List Char := ['.', '.', '.']

/-- The mark of byte order, which takes no place in a line. -/
def byteOrderMark : Char := '\ufeff'

/-- A place in a text. -/
structure Cursor where
  /-- What is left, as far as it could be read. -/
  rest : List Char
  /-- The fault behind that; without one, the text ends there. -/
  fault : Option Fault
  index : Nat
  line : Nat
  column : Nat
deriving Repr

/-- The first character of a text that ends in a possible fault; none at the end. -/
def firstChar (fault : Option Fault) : List Char → Except Fault (Option Char)
  | c :: _ => .ok (some c)
  | [] =>
    match fault with
    | some f => .error f
    | none => .ok none

namespace Cursor

/-- The character some places further on; none behind the end. -/
def charAt (p : Cursor) (n : Nat) : Except Fault (Option Char) :=
  firstChar p.fault (p.rest.drop n)

/-- The beginning of a text. -/
def start (cs : List Char) (fault : Option Fault) : Except Fault Cursor := do
  let p : Cursor := ⟨cs, fault, 0, 0, 0⟩
  let _ ← p.charAt 0
  return p

/-- The place after one more character. -/
def next (p : Cursor) : Except Fault Cursor :=
  match p.rest with
  | [] => .ok p
  | c :: rest => do
    let _ ← firstChar p.fault rest
    return if isBreak c then ⟨rest, p.fault, p.index + 1, p.line + 1, 0⟩
      else ⟨rest, p.fault, p.index + 1, p.line, if c == byteOrderMark then p.column else p.column + 1⟩

/-- The place after some more characters. -/
def skip : Nat → Cursor → Except Fault Cursor
  | 0, p => .ok p
  | n + 1, p => do skip n (← p.next)

/-- The characters satisfying `test` that come next, and the place after them. -/
def span (p : Cursor) (test : Char → Bool) : Except Fault (List Char × Cursor) := do
  let taken := p.rest.takeWhile test
  return (taken, ← p.skip taken.length)

/-- Whether a mark that stands on its own comes next. -/
def meetsMark (p : Cursor) (mark : List Char) : Except Fault Bool := do
  let _ ← p.charAt (mark.length - 1)
  if mark.isPrefixOf p.rest then return endsItem (← p.charAt mark.length) else return false

/-- Whether a mark that starts or ends a document comes next. -/
def meetsDocumentMark (p : Cursor) : Except Fault Bool := do
  return (← p.meetsMark documentStartMark) || (← p.meetsMark documentEndMark)

/-- The place after the spaces that come next. -/
def skipSpaces (p : Cursor) : Except Fault Cursor := do
  return (← p.span (· == ' ')).2

/-- The place after a comment, if one comes next. -/
def skipComment (p : Cursor) : Except Fault Cursor := do
  if p.rest.head? == some '#' then return (← p.span fun c => !isBreak c).2 else return p

/-- A break, as it counts in a text, and the place after it. -/
def break? (p : Cursor) : Except Fault (Option (Char × Cursor)) := do
  match p.rest with
  | [] => return none
  | c :: _ =>
    if c == '\n' || c == '\x85' then return some ('\n', ← p.next)
    else if isBreak c then return some (c, ← p.next)
    else return none

/-- The place after the end of a line that holds nothing more than a comment. -/
def finishLine (p : Cursor) : Except Fault Cursor := do
  let p ← (← p.skipSpaces).skipComment
  if !endsLine p.rest.head? then throw .malformed
  match ← p.break? with
  | some (_, p) => return p
  | none => return p

end Cursor

end LibraryCatalogue.Yaml
