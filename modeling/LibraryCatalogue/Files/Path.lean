import LibraryCatalogue.Text.Basic
import LibraryCatalogue.Text.Casing

/-!
# Paths

A path is kept in a normal form: without repeated slashes, without steps that stay where they are.
Steps upwards are kept.

* `Path.ofText`, `Path.text` — reading and writing;
* `Path.join` — one path below another, unless it starts anew at the root;
* `Path.name`, `Path.suffix` — the last step, and what follows its last point.
-/

namespace LibraryCatalogue

/-- A path: the slashes it starts with, none, one or exactly two, and its steps. -/
structure Path where
  root : String
  steps : List String
deriving DecidableEq, Repr

namespace Path

/-- The slashes that a path starts with: two mean something of their own, more than two do not. -/
def rootOf : List Char → String
  | '/' :: '/' :: '/' :: _ => "/"
  | '/' :: '/' :: _ => "//"
  | '/' :: _ => "/"
  | _ => ""

/-- Reads a path. -/
def ofText (s : String) : Path where
  root := rootOf s.toList
  steps := ((splitAtEach '/' s.toList).map String.ofList).filter fun p => p != "" && p != "."

/-- Writes a path. -/
def text (p : Path) : String :=
  if p.root.isEmpty && p.steps.isEmpty then "." else p.root ++ "/".intercalate p.steps

/-- One path below another, unless it starts anew at the root. -/
def join (p q : Path) : Path :=
  if q.root.isEmpty then { p with steps := p.steps ++ q.steps } else q

/-- The last step. -/
def name (p : Path) : String :=
  p.steps.getLast?.getD ""

/-- The last point of a name and what follows it; a name that starts or ends there has none. -/
def suffix (p : Path) : String :=
  let cs := p.name.toList
  let tail := (cs.reverse.takeWhile (· != '.')).reverse
  if cs.contains '.' && !tail.isEmpty && tail.length + 1 < cs.length then
    String.ofList ('.' :: tail)
  else ""

/-- The suffix in lower case. -/
def format (p : Path) : String :=
  lowerText p.suffix

end Path

end LibraryCatalogue
