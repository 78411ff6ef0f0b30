import LibraryCatalogue.Text.Basic

/-!
# Regular expressions

A pattern is a row of pieces that match one after another.  Characters are kept as code points, so
that a pattern may also name code points no text can hold.

* `CharClass`, `ClassItem` — what may stand in a character set;
* `Options` — the options that inline flags switch on and off;
* `Regex` — one piece of a pattern;
* `Regex.width` — the least and the greatest number of characters a piece matches.
-/

namespace LibraryCatalogue.Pattern

/-- The named classes of characters. -/
inductive CharClass where
  | digit
  | space
  | word
deriving DecidableEq, Repr

/-- An element of a character set; classes may be complemented. -/
inductive ClassItem where
  | one (code : Nat)
  | range (first last : Nat)
  | named (cls : CharClass) (negated : Bool)
deriving DecidableEq, Repr

/-- Positions that match without using up a character. -/
inductive Anchor where
  | lineStart
  | lineEnd
  | textStart
  | textEnd
  | wordEdge
  | notWordEdge
deriving DecidableEq, Repr

/-- How a repetition chooses between more and less. -/
inductive Greed where
  | greedy
  | lazy
  | possessive
deriving DecidableEq, Repr

/-- The options under which a piece is matched. -/
structure Options where
  ignoreCase : Bool
  multiline : Bool
  dotAll : Bool
  ascii : Bool
deriving DecidableEq, Repr

/-- All options off. -/
def Options.plain : Options :=
  ⟨false, false, false, false⟩

/-- The options after some were switched on and some off; a choice of alphabet replaces the one
before. -/
structure OptionChange where
  ignoreCase : Option Bool
  multiline : Option Bool
  dotAll : Option Bool
  ascii : Option Bool
deriving DecidableEq, Repr

/-- Applies a change of options. -/
def Options.change (o : Options) (c : OptionChange) : Options where
  ignoreCase := c.ignoreCase.getD o.ignoreCase
  multiline := c.multiline.getD o.multiline
  dotAll := c.dotAll.getD o.dotAll
  ascii := c.ascii.getD o.ascii

/-- One piece of a pattern. -/
inductive Regex where
  | one (code : Nat)
  | other (code : Nat)
  | any
  | oneOf (negated : Bool) (items : List ClassItem)
  | anchor (a : Anchor)
  | alternatives (choices : List (List Regex))
  | group (index : Option Nat) (change : Option OptionChange) (body : List Regex)
  | times (greed : Greed) (least : Nat) (most : Option Nat) (body : List Regex)
  | atomic (body : List Regex)
  | ahead (negated : Bool) (body : List Regex)
  | behind (negated : Bool) (shortest longest : Nat) (body : List Regex)
  | same (index : Nat)
  | whether (index : Nat) (yes no : List Regex) (hasNo : Bool)
deriving Repr

/-- A pattern with the options it starts under. -/
structure Compiled where
  options : Options
  pieces : List Regex
deriving Repr

/-- The least and the greatest number of characters that something matches. -/
structure Width where
  least : Nat
  most : Nat
deriving DecidableEq, Repr

/-- Widths are counted up to this bound, which stands for all greater ones. -/
def widthBound : Nat := powerOfTwo 64

namespace Width

def exactly (n : Nat) : Width := ⟨n, n⟩

/-- One after the other. -/
def add (a b : Width) : Width := ⟨a.least + b.least, a.most + b.most⟩

/-- Either of the two. -/
def either (a b : Width) : Width := ⟨min a.least b.least, max a.most b.most⟩

/-- Repetition; without an upper bound the width is unbounded unless the body is empty. -/
def times (w : Width) (least : Nat) (most : Option Nat) : Width where
  least := w.least * least
  most := match most with
    | some n => w.most * n
    | none => if w.most == 0 then 0 else widthBound

/-- Cut off at the bound. -/
def bounded (w : Width) : Width := ⟨min w.least widthBound, min w.most widthBound⟩

end Width

mutual

/-- The width of a piece, given the widths of the groups it may refer to. -/
def Regex.width (groups : Nat → Width) : Regex → Width
  | .one _ | .other _ | .any | .oneOf _ _ => .exactly 1
  | .anchor _ | .ahead _ _ | .behind _ _ _ _ => .exactly 0
  | .alternatives choices => widthOfAny groups choices
  | .group _ _ body => (widthOfAll groups body).bounded
  | .times _ least most body => (widthOfAll groups body).bounded.times least most
  | .atomic body => (widthOfAll groups body).bounded
  | .same index => groups index
  | .whether _ yes no hasNo =>
    let y := (widthOfAll groups yes).bounded
    if hasNo then y.either (widthOfAll groups no).bounded else ⟨0, y.most⟩

/-- The width of a row of pieces. -/
def widthOfAll (groups : Nat → Width) : List Regex → Width
  | [] => .exactly 0
  | r :: rest => (r.width groups).add (widthOfAll groups rest)

/-- The width of the alternatives of a branch. -/
def widthOfAny (groups : Nat → Width) : List (List Regex) → Width
  | [] => ⟨widthBound, 0⟩
  | c :: rest => (widthOfAll groups c).bounded.either (widthOfAny groups rest)

end

end LibraryCatalogue.Pattern
