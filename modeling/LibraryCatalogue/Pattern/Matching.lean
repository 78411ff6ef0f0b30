import LibraryCatalogue.Pattern.Reader
import LibraryCatalogue.Text.Casing

/-!
# Matching whole texts

Pieces are tried one after another; every choice keeps the way back to the next one until the rest
of the pattern has matched too.

* `CharClass.has`, `ClassItem.has`, `matchesCode` — what one character matches;
* `Cursor` — how far a match has come, and what the groups hold;
* `Regex.run` — matches a piece and passes every way of doing so to what follows, in order of
  preference, until that succeeds;
* `repeatGreedy`, `repeatLazy`, `repeatPossessive` — the three repetitions; an iteration that used
  up nothing is not followed by another one;
* `Compiled.matchesAll` — whether a pattern matches a whole text.
-/

namespace LibraryCatalogue.Pattern

/-! ## Single characters -/

/-- Whether a class has a character, among ASCII characters alone if asked. -/
def CharClass.has (ascii : Bool) : CharClass → Char → Bool
  | .digit, c => if ascii then c.isDigit else isDecimalDigit c
  | .space, c => if ascii then isAsciiBlank c else isBlank c
  | .word, c => if ascii then isAsciiAlphanumeric c || c == '_' else isWordChar c

/-- The characters that stand for `c` when case is ignored. -/
def variants (o : Options) (c : Char) : List Char :=
  if !o.ignoreCase then [c]
  else if o.ascii then
    if c.isUpper then [c, c.toLower] else if c.isLower then [c, c.toUpper] else [c]
  else caseVariants c

/-- The form in which a character is compared with one that was matched before. -/
def foldedForm (o : Options) (c : Char) : Char :=
  if !o.ignoreCase then c else if o.ascii then lowerAscii c else lowerChar c

/-- Whether a character is the one with this code point. -/
def matchesCode (o : Options) (code : Nat) (c : Char) : Bool :=
  if o.ignoreCase then (variants o c).any (·.toNat == code) else c.toNat == code

/-- Whether an element of a set has a character. -/
def ClassItem.has (o : Options) : ClassItem → Char → Bool
  | .one code, c => matchesCode o code c
  | .range first last, c => (variants o c).any fun v => first ≤ v.toNat && v.toNat ≤ last
  | .named cls negated, c => cls.has o.ascii c != negated

/-! ## Positions -/

/-- How far a match has come: the characters before it, the nearest first; those after it; their
number before it; and the texts of the groups. -/
structure Cursor where
  behind : List Char
  ahead : List Char
  position : Nat
  groups : List (Nat × List Char)

namespace Cursor

/-- The start of a text. -/
def start (cs : List Char) : Cursor :=
  ⟨[], cs, 0, []⟩

/-- Goes past one character. -/
def advance (s : Cursor) (c : Char) (rest : List Char) : Cursor :=
  { s with behind := c :: s.behind, ahead := rest, position := s.position + 1 }

/-- The text of a group. -/
def group? (s : Cursor) (index : Nat) : Option (List Char) :=
  s.groups.lookup index

/-- Keeps the text between two positions as that of a group. -/
def capture (s : Cursor) (index : Nat) (from_ : Cursor) : Cursor :=
  let text := (s.behind.take (s.position - from_.position)).reverse
  { s with groups := (index, text) :: s.groups.filter (·.1 != index) }

/-- Goes back some characters. -/
def back? : Nat → Cursor → Option Cursor
  | 0, s => some s
  | n + 1, s =>
    match s.behind with
    | [] => none
    | c :: rest =>
      back? n { s with behind := rest, ahead := c :: s.ahead, position := s.position - 1 }

/-- Whether the character next to a position, if any, is a word character. -/
def wordAt (ascii : Bool) (cs : List Char) : Bool :=
  match cs with
  | [] => false
  | c :: _ => CharClass.word.has ascii c

/-- Whether an anchor holds at a position.  Neither kind of word edge holds in an empty text. -/
def holds (o : Options) (s : Cursor) : Anchor → Bool
  | .textStart => s.behind.isEmpty
  | .textEnd => s.ahead.isEmpty
  | .lineStart => s.behind.isEmpty || (o.multiline && s.behind.head? == some '\n')
  | .lineEnd =>
    s.ahead.isEmpty || s.ahead == ['\n'] || (o.multiline && s.ahead.head? == some '\n')
  | .wordEdge => wordAt o.ascii s.behind != wordAt o.ascii s.ahead
  | .notWordEdge =>
    !(s.behind.isEmpty && s.ahead.isEmpty) && wordAt o.ascii s.behind == wordAt o.ascii s.ahead

end Cursor

/-- What follows a piece: the rest of the match, if there is one. -/
abbrev Rest := Cursor → Option Cursor

/-- Matches one character that satisfies `p`. -/
def consume (p : Char → Bool) (s : Cursor) (k : Rest) : Option Cursor :=
  match s.ahead with
  | c :: rest => if p c then k (s.advance c rest) else none
  | [] => none

/-- Matches the text of a group again, character by character. -/
def consumeAll (o : Options) : List Char → Cursor → Rest → Option Cursor
  | [], s, k => k s
  | c :: cs, s, k => consume (fun d => foldedForm o d == foldedForm o c) s fun s => consumeAll o cs s k

/-! ## Repetition -/

/-- One more iteration of a repetition that needs or allows `n` of them. -/
def fewer (most : Option Nat) : Option Nat := most.map (· - 1)

/-- Repeats as often as possible.  `last` is where the latest optional iteration began; the first
argument bounds the number of iterations. -/
def repeatGreedy (step : Cursor → Rest → Option Cursor) :
    Nat → Nat → Option Nat → Option Nat → Cursor → Rest → Option Cursor
  | 0, _, _, _, _, _ => none
  | fuel + 1, least, most, last, s, k =>
    if 0 < least then step s fun s' => repeatGreedy step fuel (least - 1) (fewer most) last s' k
    else if most != some 0 && last != some s.position then
      match step s fun s' => repeatGreedy step fuel 0 (fewer most) (some s.position) s' k with
      | some r => some r
      | none => k s
    else k s

/-- Repeats as seldom as possible. -/
def repeatLazy (step : Cursor → Rest → Option Cursor) :
    Nat → Nat → Option Nat → Option Nat → Cursor → Rest → Option Cursor
  | 0, _, _, _, _, _ => none
  | fuel + 1, least, most, last, s, k =>
    if 0 < least then step s fun s' => repeatLazy step fuel (least - 1) (fewer most) last s' k
    else
      match k s with
      | some r => some r
      | none =>
        if most != some 0 && last != some s.position then
          step s fun s' => repeatLazy step fuel 0 (fewer most) (some s.position) s' k
        else none

/-- Repeats as often as possible and never takes an iteration back. -/
def repeatPossessive (step : Cursor → Rest → Option Cursor) :
    Nat → Nat → Option Nat → Cursor → Option Cursor
  | 0, _, _, _ => none
  | fuel + 1, least, most, s =>
    if 0 < least then
      match step s some with
      | some s' => repeatPossessive step fuel (least - 1) (fewer most) s'
      | none => none
    else if most != some 0 then
      match step s some with
      | some s' =>
        if s'.position == s.position then some s'
        else repeatPossessive step fuel 0 (fewer most) s'
      | none => some s
    else some s

/-- The number of iterations that a repetition can come to at a position. -/
def iterationBound (least : Nat) (s : Cursor) : Nat :=
  least + s.ahead.length + 2

/-! ## Pieces -/

mutual

/-- Matches a piece, then what follows. -/
def Regex.run (o : Options) : Regex → Cursor → Rest → Option Cursor
  | .one code, s, k => consume (matchesCode o code) s k
  | .other code, s, k => consume (fun c => !matchesCode o code c) s k
  | .any, s, k => consume (fun c => o.dotAll || c != '\n') s k
  | .oneOf negated items, s, k => consume (fun c => items.any (·.has o c) != negated) s k
  | .anchor a, s, k => if s.holds o a then k s else none
  | .alternatives choices, s, k => runAny o choices s k
  | .group index change body, s, k =>
    runAll ((change.map o.change).getD o) body s fun s' =>
      k (match index with
        | some i => s'.capture i s
        | none => s')
  | .times greed least most body, s, k =>
    match greed with
    | .greedy => repeatGreedy (runAll o body) (iterationBound least s) least most none s k
    | .lazy => repeatLazy (runAll o body) (iterationBound least s) least most none s k
    | .possessive =>
      match repeatPossessive (runAll o body) (iterationBound least s) least most s with
      | some s' => k s'
      | none => none
  | .atomic body, s, k =>
    match runAll o body s some with
    | some s' => k s'
    | none => none
  | .ahead negated body, s, k =>
    match runAll o body s some with
    | some s' => if negated then none else k { s with groups := s'.groups }
    | none => if negated then k s else none
  | .behind negated shortest _ body, s, k =>
    match (s.back? shortest).bind fun s' => runAll o body s' some with
    | some s' => if negated then none else k { s with groups := s'.groups }
    | none => if negated then k s else none
  | .same index, s, k =>
    match s.group? index with
    | some text => consumeAll o text s k
    | none => none
  | .whether index yes no _, s, k =>
    if (s.group? index).isSome then runAll o yes s k else runAll o no s k

/-- Matches a row of pieces one after another, then what follows. -/
def runAll (o : Options) : List Regex → Cursor → Rest → Option Cursor
  | [], s, k => k s
  | r :: rest, s, k => r.run o s fun s' => runAll o rest s' k

/-- Matches the first alternative that lets what follows match. -/
def runAny (o : Options) : List (List Regex) → Cursor → Rest → Option Cursor
  | [], _, _ => none
  | c :: rest, s, k =>
    match runAll o c s k with
    | some r => some r
    | none => runAny o rest s k

end

/-- Whether a pattern matches a whole text. -/
def Compiled.matchesAll (p : Compiled) (text : String) : Bool :=
  (runAll p.options p.pieces (.start text.toList) fun s =>
    if s.ahead.isEmpty then some s else none).isSome

end LibraryCatalogue.Pattern
