import LibraryCatalogue.Pattern.Matching
import LibraryCatalogue.Record

/-!
# Beautifying records

Rules are applied one after another to a working copy of a record.  Each rule sees what the rules
before it wrote, and applies either completely or not at all.

* `Condition.holds` — whether a condition holds of a record;
* `firstFailed` — the first of some conditions that does not hold;
* `step`, `pass` — one rule, and a row of rules, on a working copy;
* `trace`, `applyRules`, `beautify` — a pass over a record: what became of each rule, and the record
  alone.
-/

namespace LibraryCatalogue

/-- Whether a pattern matches a whole value; a field without a value never matches. -/
def wholeMatch (pattern : String) : Option String → Except Pattern.Refusal Bool
  | none => .ok false
  | some value => (Pattern.compile pattern).map (·.matchesAll value)

/-- Whether a condition holds of a record. -/
def Condition.holds (c : Condition) (fields : Fields) : Except Pattern.Refusal Bool :=
  match c.mode with
  | .wholeMatch => wholeMatch c.literalValue (fields.get? c.key)

/-- The first of some conditions that does not hold of a record. -/
def firstFailed (fields : Fields) : List Condition → Except Pattern.Refusal (Option Condition)
  | [] => .ok none
  | c :: rest => do
    if ← c.holds fields then firstFailed fields rest else return some c

/-- What became of one rule in a pass. -/
structure Outcome where
  index : Nat
  action : Action
  failed : Option Condition
deriving DecidableEq, Repr

/-- Whether the rule was applied. -/
def Outcome.applied (o : Outcome) : Bool :=
  o.failed.isNone

/-- The record after an action wrote its value. -/
def Action.write (a : Action) (fields : Fields) : Fields :=
  match a.mode with
  | .replace => Fields.insert a.key (some a.literalValue) fields

/-- One rule on a working copy: the condition that failed, if any, and the copy after it. -/
def step (fields : Fields) (a : Action) :
    Except Pattern.Refusal (Option Condition × Fields) := do
  match ← firstFailed fields a.conditions with
  | some c => return (some c, fields)
  | none => return (none, a.write fields)

/-- A row of rules on a working copy; `index` is the number of the first of them. -/
def pass (index : Nat) (fields : Fields) :
    List Action → Except Pattern.Refusal (List Outcome × Fields)
  | [] => .ok ([], fields)
  | a :: rest => do
    let (failed, fields) ← step fields a
    let (outcomes, fields) ← pass (index + 1) fields rest
    return (⟨index, a, failed⟩ :: outcomes, fields)

/-- The result of a pass over a record. -/
structure Trace where
  fields : Fields
  outcomes : List Outcome
deriving DecidableEq, Repr

/-- How many rules were applied. -/
def Trace.appliedCount (t : Trace) : Nat :=
  t.outcomes.countP (·.applied)

/-- Applies rules to a record and reports what became of each. -/
def trace (record : Fields) (rules : List Action) : Except Pattern.Refusal Trace := do
  let (outcomes, fields) ← pass 0 record.normalise rules
  return ⟨fields, outcomes⟩

/-- The record after rules were applied to it. -/
def applyRules (record : Fields) (rules : List Action) : Except Pattern.Refusal Fields :=
  (trace record rules).map (·.fields)

/-- The record after the rules of a catalogue were applied to it. -/
def beautify (record : Fields) (rules : List Action) : Except Pattern.Refusal Fields :=
  applyRules record rules

end LibraryCatalogue
