import LibraryCatalogue.Yaml.Quoted

/-!
# Plain scalars

A plain scalar stands without quotes.  It ends where a colon, a comment or, between brackets, a
separator begins, and may go on over lines that are indented deeper than what it belongs to.

* `wordLength` — how far a word goes;
* `readPlain` — a plain scalar.
-/

namespace LibraryCatalogue.Yaml

/-- Whether a word between words ends in front of a character and those behind it: at white space, at a
colon that is a mark, and between brackets at any separator. -/
def endsPlainWord (inBrackets : Bool) (fault : Option Fault) (c : Char) (rest : List Char) :
    Except Fault Bool := do
  if isGap c then return true
  else if c == ':' then
    let d ← firstChar fault rest
    return endsItem d || (inBrackets && isOneOf ",[]\x7b\x7d" d)
  else return inBrackets && isOneOf ",?[]\x7b\x7d" c

/-- The number of characters up to the end of a word. -/
def wordLength (inBrackets : Bool) (fault : Option Fault) : List Char → Except Fault Nat
  | [] => do
    let _ ← firstChar fault []
    return 0
  | c :: rest => do
    if ← endsPlainWord inBrackets fault c rest then return 0
    else return (← wordLength inBrackets fault rest) + 1

/-- The breaks that follow a break, and whether a document mark comes after them.  The first
argument bounds the number of characters. -/
def readPlainBreaks : Nat → Cursor → Except Fault (List Char × Bool × Cursor)
  | 0, p => .ok ([], true, p)
  | fuel + 1, p => do
    if p.rest.head? == some ' ' then readPlainBreaks fuel (← p.next)
    else
      match ← p.break? with
      | none => return ([], false, p)
      | some (b, p) =>
        if ← p.meetsDocumentMark then return ([], true, p)
        else
          let (bs, stopped, p) ← readPlainBreaks fuel p
          return (b :: bs, stopped, p)

/-- White space between the words of a plain scalar: how it counts, whether it holds a break, and
the place after it.  Nothing counts before a document mark. -/
def readPlainGap (p : Cursor) : Except Fault (List Char × Bool × Cursor) := do
  let (blanks, p) ← p.span (· == ' ')
  match ← p.break? with
  | none => return (blanks, false, p)
  | some (b, p) =>
    if ← p.meetsDocumentMark then return ([], true, p)
    else
      let (bs, stopped, p) ← readPlainBreaks (p.rest.length + 1) p
      return (if stopped then [] else folded b bs, true, p)

/-- A plain scalar as read. -/
structure Plain where
  text : List Char
  /-- Whether a break was passed after the last word. -/
  atNewLine : Bool
  after : Cursor
deriving Repr

/-- The rest of a plain scalar, whose text so far is given in reverse; `gap` is the white space in
front of the next word, and `floor` the column that further lines must reach outside brackets.  The
first argument bounds the number of words. -/
def readPlainFrom (inBrackets : Bool) (floor : Nat) :
    Nat → List Char → List Char → Bool → Cursor → Except Fault Plain
  | 0, text, _, atNewLine, p => .ok ⟨text.reverse, atNewLine, p⟩
  | fuel + 1, text, gap, atNewLine, p => do
    if p.rest.head? == some '#' then return ⟨text.reverse, atNewLine, p⟩
    let n ← wordLength inBrackets p.fault p.rest
    if n == 0 then return ⟨text.reverse, atNewLine, p⟩
    let text := (p.rest.take n).reverse ++ (gap.reverse ++ text)
    let (gap, atNewLine, p) ← readPlainGap (← p.skip n)
    if gap.isEmpty || (!inBrackets && p.column < floor) then return ⟨text.reverse, atNewLine, p⟩
    else readPlainFrom inBrackets floor fuel text gap atNewLine p

/-- A plain scalar. -/
def readPlain (inBrackets : Bool) (floor : Nat) (p : Cursor) : Except Fault Plain :=
  readPlainFrom inBrackets floor (p.rest.length + 1) [] [] false p

end LibraryCatalogue.Yaml
