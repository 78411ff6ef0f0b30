import LibraryCatalogue.Yaml.Quoted

/-!
# Block scalars

A block scalar consists of the indented lines below its header: as they stand, or with single
breaks between lines counted as spaces.

* `Ending`, `Header`, `readHeader` — what becomes of the breaks at the end, and the indentation when
  it is given;
* `readBlock` — a block scalar.
-/

namespace LibraryCatalogue.Yaml

/-- What becomes of the breaks at the end of a block. -/
inductive Ending where
  | strip
  | clip
  | keep
deriving DecidableEq, Repr

/-- The header of a block: its ending, and by how much it is indented when that is given. -/
structure Header where
  ending : Ending
  indentation : Option Nat
deriving Repr

/-- The mark of an ending, if one comes next. -/
def readEnding (p : Cursor) : Except Fault (Option Ending × Cursor) := do
  match p.rest.head? with
  | some '+' => return (some .keep, ← p.next)
  | some '-' => return (some .strip, ← p.next)
  | _ => return (none, p)

/-- The digit of an indentation, if one comes next; it is not zero. -/
def readIndentation (p : Cursor) : Except Fault (Option Nat × Cursor) := do
  match p.rest with
  | [] => return (none, p)
  | c :: _ =>
    if c == '0' then throw .malformed
    else if c.isDigit then return (some (c.toNat - 48), ← p.next)
    else return (none, p)

/-- The header of a block, up to the end of its line. -/
def readHeader (p : Cursor) : Except Fault (Header × Cursor) := do
  let (early, p) ← readEnding p
  let (indentation, p) ← readIndentation p
  let (late, p) ← if early.isNone && indentation.isSome then readEnding p else pure (none, p)
  if !endsWord p.rest.head? then throw .malformed
  return (⟨(early.or late).getD .clip, indentation⟩, ← p.finishLine)

/-- The breaks in front of the first line, and the greatest column up to which spaces lead; the
first argument bounds the number of characters. -/
def readLeading : Nat → Nat → Cursor → Except Fault (List Char × Nat × Cursor)
  | 0, deepest, p => .ok ([], deepest, p)
  | fuel + 1, deepest, p => do
    if p.rest.head? == some ' ' then
      let p ← p.next
      readLeading fuel (max deepest p.column) p
    else
      match ← p.break? with
      | none => return ([], deepest, p)
      | some (b, p) =>
        let (bs, deepest, p) ← readLeading fuel deepest p
        return (b :: bs, deepest, p)

/-- The spaces up to a column, as far as there are any. -/
def indentTo (column : Nat) (p : Cursor) : Except Fault Cursor :=
  let spaces := (p.rest.takeWhile (· == ' ')).length
  p.skip (min spaces (column - p.column))

/-- The empty lines in front of a line, and the place where the line begins at `column`, unless it
begins earlier; the first argument bounds the number of lines. -/
def readEmptyLines (column : Nat) : Nat → Cursor → Except Fault (List Char × Cursor)
  | 0, p => .ok ([], p)
  | fuel + 1, p => do
    let p ← indentTo column p
    match ← p.break? with
    | none => return ([], p)
    | some (b, p) =>
      let (bs, p) ← readEmptyLines column fuel p
      return (b :: bs, p)

/-- The end of a block whose text so far is given in reverse: the last break unless it is stripped, and
further ones if kept. -/
def finishBlock (ending : Ending) (text empty : List Char) (b : Option Char) : List Char :=
  let last := if ending == .strip then [] else b.toList
  let more := if ending == .keep then empty else []
  text.reverse ++ last ++ more

/-- The lines of a block from the one at hand on; `text` is the text so far in reverse and `empty`
the breaks in front of this line.  The first argument bounds the number of lines. -/
def readLines (fold : Bool) (ending : Ending) (column : Nat) :
    Nat → List Char → List Char → Option Char → Cursor → Except Fault (List Char × Cursor)
  | 0, text, _, _, p => .ok (text.reverse, p)
  | fuel + 1, text, empty, lastBreak, p => do
    if p.column == column && !p.rest.isEmpty then
      let indented := isOneOf " \t" p.rest.head?
      let (line, p) ← p.span fun c => !isBreak c
      let text := line.reverse ++ (empty.reverse ++ text)
      let (b, p) ← match ← p.break? with
        | some (b, p) => pure (some b, p)
        | none => pure (none, p)
      let (empty, p) ← readEmptyLines column (p.rest.length + 1) p
      if p.column == column && !p.rest.isEmpty then
        let joint :=
          if fold && b == some '\n' && !indented && !isOneOf " \t" p.rest.head? then
            if empty.isEmpty then [' '] else []
          else b.toList
        readLines fold ending column fuel (joint ++ text) empty b p
      else return (finishBlock ending text empty b, p)
    else return (finishBlock ending text empty lastBreak, p)

/-- The text of a block scalar below something indented by `floor - 1`, and the place after it. -/
def readBlock (fold : Bool) (floor : Nat) (p : Cursor) : Except Fault (List Char × Cursor) := do
  let (header, p) ← readHeader (← p.next)
  match header.indentation with
  | some n =>
    let column := floor + n - 1
    let (empty, p) ← readEmptyLines column (p.rest.length + 1) p
    readLines fold header.ending column (p.rest.length + 1) [] empty none p
  | none =>
    let (empty, deepest, p) ← readLeading (p.rest.length + 1) 0 p
    readLines fold header.ending (max floor deepest) (p.rest.length + 1) [] empty none p

end LibraryCatalogue.Yaml
