import LibraryCatalogue.Text.Basic
import LibraryCatalogue.Text.Utf8
import LibraryCatalogue.Yaml.Cursor

/-!
# Quoted scalars

A scalar between single quotes writes a quote twice; one between double quotes has escapes.  In
both, a single break between words counts as a space, and of several breaks the first is left out.

* `Escape`, `readEscape` — what stands behind a reverse solidus;
* `readQuoted` — a scalar from its opening quote to the closing one.
-/

namespace LibraryCatalogue.Yaml

/-- The characters with an escape of one letter. -/
def escapedChar? : Char → Option Char
  | '0' => some '\x00'
  | 'a' => some '\x07'
  | 'b' => some '\x08'
  | 't' => some '\t'
  | '\t' => some '\t'
  | 'n' => some '\n'
  | 'v' => some '\x0b'
  | 'f' => some '\x0c'
  | 'r' => some '\r'
  | 'e' => some '\x1b'
  | ' ' => some ' '
  | '"' => some '"'
  | '\\' => some '\\'
  | '/' => some '/'
  | 'N' => some '\x85'
  | '_' => some '\xa0'
  | 'L' => some '\u2028'
  | 'P' => some '\u2029'
  | _ => none

/-- The number of digits behind a letter that gives a character by its number. -/
def escapeWidth? : Char → Option Nat
  | 'x' => some 2
  | 'u' => some 4
  | 'U' => some 8
  | _ => none

/-- The number that `n` digits of base 16 write, `offset` places further on. -/
def Cursor.digitsAt (p : Cursor) (offset : Nat) : Nat → Except Fault (List Char)
  | 0 => .ok []
  | n + 1 => do
    match ← p.charAt offset with
    | some c =>
      if (hexValue? c).isNone then throw .malformed
      return c :: (← p.digitsAt (offset + 1) n)
    | none => throw .malformed

/-- The character with a number.  A number may be that of half a character, which no text here can
hold. -/
def numberedChar (n : Nat) : Except Fault Char :=
  if 0x80000000 ≤ n then .error .tooLarge
  else if 0x110000 ≤ n then .error .noSuchValue
  else
    match charBetween? 0 n with
    | some c => .ok c
    | none => .error .unmodelled

/-- What an escape stands for: a character, or nothing and the joining of two lines. -/
inductive Escape where
  | char (c : Char)
  | join
deriving Repr

/-- What stands behind a reverse solidus, and the place after it. -/
def readEscape (p : Cursor) : Except Fault (Escape × Cursor) := do
  match p.rest with
  | [] => throw .malformed
  | c :: _ =>
    match escapedChar? c with
    | some d => return (.char d, ← p.next)
    | none =>
      match escapeWidth? c with
      | some width =>
        let p ← p.next
        let digits ← p.digitsAt 0 width
        let d ← numberedChar ((numberOf? 16 digits).getD 0)
        return (.char d, ← p.skip width)
      | none =>
        match ← p.break? with
        | some (_, p) => return (.join, p)
        | none => throw .malformed

/-- The breaks that follow a break, each possibly behind blanks; no line may be a document mark.
The first argument bounds their number. -/
def readBreaksFrom : Nat → Cursor → Except Fault (List Char × Cursor)
  | 0, _ => .error .malformed
  | fuel + 1, p => do
    if ← p.meetsDocumentMark then throw .malformed
    let (_, p) ← p.span isInlineGap
    match ← p.break? with
    | none => return ([], p)
    | some (b, p) =>
      let (bs, p) ← readBreaksFrom fuel p
      return (b :: bs, p)

/-- The breaks that follow a break. -/
def readBreaks (p : Cursor) : Except Fault (List Char × Cursor) :=
  readBreaksFrom (p.rest.length + 1) p

/-- What a break and the breaks after it count as: a single one as a space; of several, the first
is left out.  A break that ends more than a line is kept. -/
def folded (first : Char) (others : List Char) : List Char :=
  if first != '\n' then first :: others
  else if others.isEmpty then [' ']
  else others

/-- White space between the words of a quoted scalar. -/
def readQuotedGap (p : Cursor) : Except Fault (List Char × Cursor) := do
  let (blanks, p) ← p.span isInlineGap
  if p.rest.isEmpty then throw .malformed
  match ← p.break? with
  | none => return (blanks, p)
  | some (b, p) =>
    let (bs, p) ← readBreaks p
    return (folded b bs, p)

/-- The rest of a quoted scalar, whose text so far is given in reverse; the first argument bounds
the number of its parts. -/
def readQuotedFrom (quote : Char) : Nat → List Char → Cursor → Except Fault (List Char × Cursor)
  | 0, _, _ => .error .malformed
  | fuel + 1, text, p => do
    match p.rest with
    | [] => throw .malformed
    | c :: _ =>
      if c == quote then
        if c == '\'' && (← p.charAt 1) == some '\'' then
          readQuotedFrom quote fuel ('\'' :: text) (← p.skip 2)
        else return (text.reverse, ← p.next)
      else if c == '\\' && quote == '"' then
        match ← readEscape (← p.next) with
        | (.char d, p) => readQuotedFrom quote fuel (d :: text) p
        | (.join, p) =>
          let (bs, p) ← readBreaks p
          readQuotedFrom quote fuel (bs.reverse ++ text) p
      else if isGap c then
        let (gap, p) ← readQuotedGap p
        readQuotedFrom quote fuel (gap.reverse ++ text) p
      else readQuotedFrom quote fuel (c :: text) (← p.next)

/-- The text of a quoted scalar, and the place after it. -/
def readQuoted (quote : Char) (p : Cursor) : Except Fault (List Char × Cursor) := do
  readQuotedFrom quote (p.rest.length + 1) [] (← p.next)

end LibraryCatalogue.Yaml
