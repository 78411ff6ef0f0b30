import LibraryCatalogue.Error.Basic

/-!
# Rules

A rule writes a value into a field when all of its conditions hold.  Definitions cannot carry spaces
reliably, so a space in a value is written as an open box and restored wherever the value is used.

* `restoreSpaces` — the value that a configured value stands for;
* `FieldKey` — what a field is addressed by; an empty subtag addresses the tag itself;
* `Modes`, `Modes.read` — the modes of one kind, and the one that a definition names;
* `ConditionMode`, `ActionMode` — how conditions compare and actions write;
* `Condition`, `Action` — predicates over fields, and the changes that they guard.
-/

namespace LibraryCatalogue

/-- The open box, which stands for a space. -/
def openBox : Char := '␣'

/-- A value with its spaces restored. -/
def restoreSpaces (s : String) : String :=
  String.ofList (s.toList.map fun c => if c == openBox then ' ' else c)

/-- What a field is addressed by: a tag, and a subtag unless the tag itself is meant. -/
structure FieldKey where
  tag : String
  subtag : Option String
deriving DecidableEq, Repr

/-- A subtag, where an empty one is none. -/
def normalSubtag (subtag : Option String) : Option String :=
  subtag.filter (· != "")

/-- The key of a field: an empty subtag means the tag itself. -/
def FieldKey.normal (k : FieldKey) : FieldKey :=
  { k with subtag := normalSubtag k.subtag }

/-- The modes of one kind.  Each has a name of its own, which is not empty, and one of them is the
usual one. -/
structure Modes (μ : Type) where
  subject : String
  all : List μ
  usual : μ
  name : μ → String
  complete : ∀ m, m ∈ all
  apart : ∀ m m', name m = name m' → m = m'
  named : ∀ m, name m ≠ ""

/-- The mode that a definition names; none or an empty name means the usual one. -/
def Modes.read {μ : Type} (k : Modes μ) (written : Option String) : Except Reason μ :=
  match written.filter (· != "") with
  | none => .ok k.usual
  | some n =>
    match k.all.find? (k.name · == n) with
    | some m => .ok m
    | none => .error (.unknownMode k.subject n (k.all.map k.name))

/-- How a condition compares a field with its value. -/
inductive ConditionMode where
  | wholeMatch
deriving DecidableEq, Repr

/-- How an action writes its value into a field. -/
inductive ActionMode where
  | replace
deriving DecidableEq, Repr

namespace ConditionMode

/-- The name of a mode in a definition. -/
def name : ConditionMode → String
  | .wholeMatch => "matches"

/-- The modes of conditions; usually the whole of a field has to match. -/
def modes : Modes ConditionMode where
  subject := "condition"
  all := [.wholeMatch]
  usual := .wholeMatch
  name := name
  complete m := by cases m; decide
  apart m m' _ := by cases m; cases m'; rfl
  named m := by cases m; decide

end ConditionMode

namespace ActionMode

/-- The name of a mode in a definition. -/
def name : ActionMode → String
  | .replace => "replace"

/-- The modes of actions; usually a value is replaced. -/
def modes : Modes ActionMode where
  subject := "action"
  all := [.replace]
  usual := .replace
  name := name
  complete m := by cases m; decide
  apart m m' _ := by cases m; cases m'; rfl
  named m := by cases m; decide

end ActionMode

/-- A predicate over one field of a record. -/
structure Condition where
  tag : String
  subtag : Option String
  value : String
  mode : ConditionMode
deriving DecidableEq, Repr

/-- The key of the field that a condition reads. -/
def Condition.key (c : Condition) : FieldKey :=
  (FieldKey.mk c.tag c.subtag).normal

/-- The value of a condition with its spaces restored. -/
def Condition.literalValue (c : Condition) : String :=
  restoreSpaces c.value

/-- A change of one field, applied when all of its conditions hold. -/
structure Action where
  tag : String
  subtag : Option String
  value : String
  mode : ActionMode
  conditions : List Condition
deriving DecidableEq, Repr

/-- The key of the field that an action writes. -/
def Action.key (a : Action) : FieldKey :=
  (FieldKey.mk a.tag a.subtag).normal

/-- The value of an action with its spaces restored. -/
def Action.literalValue (a : Action) : String :=
  restoreSpaces a.value

/-- Whether an action has no conditions. -/
def Action.isUnconditional (a : Action) : Bool :=
  a.conditions.isEmpty

theorem normalSubtag_eq (subtag : Option String) :
    normalSubtag subtag = if subtag = some "" then none else subtag := by
  cases subtag with
  | none => rfl
  | some s => by_cases hs : s = "" <;> simp [normalSubtag, hs]

theorem FieldKey.normal_normal (k : FieldKey) : k.normal.normal = k.normal := by
  cases k with
  | mk tag subtag => cases subtag <;> simp [FieldKey.normal, normalSubtag, Option.filter_filter]

end LibraryCatalogue
