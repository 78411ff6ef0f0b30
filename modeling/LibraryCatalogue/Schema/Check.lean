import LibraryCatalogue.Schema.Fault
import LibraryCatalogue.Text.Basic
import LibraryCatalogue.Value.Freeze
import LibraryCatalogue.Value.Written

/-!
# Checking values

A check gives a result or all the faults it found, unless it is given up on the way.

* `Checked.both` — two checks side by side: the faults of both are kept, the first's first;
* `field`, `optional` — a field of a mapping, required or with a default;
* `items` — every item of a row;
* `mapping`, `listOf` — the containers that a schema expects;
* `foreignKeys` — the faults of keys that are not texts.
-/

namespace LibraryCatalogue.Schema

/-- The result of a check, or what it ended with instead. -/
abbrev Checked (α : Type) := Except Finding α

namespace Checked

/-- A check that found one problem, right here. -/
def fail {α : Type} (p : Problem) : Checked α :=
  .error (.faults [⟨[], p⟩])

/-- A check one step further in. -/
def under {α : Type} (s : Step) (c : Checked α) : Checked α :=
  c.mapError (Finding.under s)

/-- Two checks side by side. -/
def both {α β : Type} (a : Checked α) (b : Checked β) : Checked (α × β) :=
  match a, b with
  | .ok x, .ok y => .ok (x, y)
  | .ok _, .error g => .error g
  | .error f, .ok _ => .error f
  | .error f, .error g => .error (f.both g)

/-- A check with the faults of another look at the same value added. -/
def andFaults {α : Type} (a : Checked α) (extra : List Fault) : Checked α :=
  match a with
  | .ok x => if extra.isEmpty then .ok x else .error (.faults extra)
  | .error f => .error (f.both (.faults extra))

end Checked

/-- The value of a required field. -/
def field {α : Type} (entries : Entries) (name : String) (check : Value → Checked α) : Checked α :=
  Checked.under (.field name) (match Value.get? entries name with
    | some v => check v
    | none => .fail .missing)

/-- The value of a field with a default. -/
def optional {α : Type} (entries : Entries) (name : String) (default : α)
    (check : Value → Checked α) : Checked α :=
  match Value.get? entries name with
  | some v => Checked.under (.field name) (check v)
  | none => .ok default

/-- The results of checking a row of items; the first of them has number `n`. -/
def items {α : Type} (check : Value → Checked α) : Nat → List Value → Checked (List α)
  | _, [] => .ok []
  | n, v :: rest =>
    ((Checked.under (.index n) (check v)).both (items check (n + 1) rest)).map
      fun (x, xs) => x :: xs

/-- The entries of a mapping. -/
def mapping (schema : String) : Value → Checked Entries
  | .map entries => .ok entries
  | _ => .fail (.notMapping schema)

/-- The items of a list, a tuple or a set, each checked. -/
def listOf {α : Type} (check : Value → Checked α) : Value → Checked (List α)
  | .list vs | .tuple vs | .set vs => items check 0 vs
  | _ => .fail .notList

/-- One more than the greatest integer of 64 bits. -/
def limit64 : Int := powerOfTwo 63

/-- Whether an integer has at most 64 bits. -/
def fits64 (i : Int) : Bool :=
  -limit64 ≤ i && i < limit64

/-- The name of a key that is not a text: its own text, or its kind when it cannot be written. -/
def keyName (key : Value) : String :=
  if key.isWritable then key.shown else "<unprintable " ++ key.kindName ++ " object>"

/-- The step to a key that is not a text: small integers and truth values are numbers, all else is
named. -/
def keyStep (key : Value) : Step :=
  match key with
  | .int i => if fits64 i then .index i else .field (keyName (.int i))
  | .bool b => .index (if b then 1 else 0)
  | k => .field (keyName k)

/-- The faults of the keys that are not texts. -/
def foreignKeys (entries : Entries) : List Fault :=
  entries.filterMap fun (k, _) =>
    match k with
    | .text _ => none
    | k => some ⟨[keyStep k], .keyNotText⟩

end LibraryCatalogue.Schema
