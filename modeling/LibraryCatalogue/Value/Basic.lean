import LibraryCatalogue.Calendar
import LibraryCatalogue.Number.Binary64

/-!
# Raw values

A raw value is what a definition file holds before any schema has looked at it.

* `Value` — scalars, and lists, tuples, sets and mappings of values; a mapping keeps its entries in
  the order in which they were first written;
* `Value.sameKey` — equality of mapping keys; a truth value counts as the number 0 or 1, and numbers
  are compared by value;
* `Value.insert`, `Value.lookup` — writing and reading one key; writing an existing key keeps its
  place and spelling.
-/

namespace LibraryCatalogue

/-- A raw value. -/
inductive Value where
  | null
  | bool (b : Bool)
  | int (i : Int)
  | float (x : Binary64)
  | text (s : String)
  | bytes (b : List UInt8)
  | date (d : Date)
  | moment (t : Moment)
  | list (items : List Value)
  | tuple (items : List Value)
  | set (items : List Value)
  | map (entries : List (Value × Value))
deriving Inhabited, Repr

/-- The entries of a mapping, in order. -/
abbrev Entries := List (Value × Value)

namespace Value

/-- The integer that a value is equal to, when it is a number. -/
def asInteger? : Value → Option Int
  | .bool b => some (if b then 1 else 0)
  | .int i => some i
  | .float x => x.toInt?
  | _ => none

mutual

/-- Equality of mapping keys. -/
def sameKey : Value → Value → Bool
  | .null, .null => true
  | .text a, .text b => a == b
  | .bytes a, .bytes b => a == b
  | .date a, .date b => a == b
  | .moment a, .moment b => a.sameInstant b
  | .tuple a, .tuple b => sameKeys a b
  | .float x, .float y => x.sameNumber y
  | a, b =>
    match a.asInteger?, b.asInteger? with
    | some i, some j => i == j
    | _, _ => false

/-- Equality of rows of mapping keys. -/
def sameKeys : List Value → List Value → Bool
  | [], [] => true
  | a :: as, b :: bs => sameKey a b && sameKeys as bs
  | _, _ => false

end

mutual

/-- Whether a value may be a mapping key: it holds no list, set or mapping. -/
def isKey : Value → Bool
  | .list _ | .set _ | .map _ => false
  | .tuple items => areKeys items
  | _ => true

/-- Whether every one of a row of values may be a mapping key. -/
def areKeys : List Value → Bool
  | [] => true
  | v :: vs => isKey v && areKeys vs

end

/-- The entries after writing `value` at `key`: an equal key keeps its place and spelling. -/
def insert (key value : Value) : Entries → Entries
  | [] => [(key, value)]
  | (k, v) :: rest => if sameKey k key then (k, value) :: rest else (k, v) :: insert key value rest

/-- The value at a key. -/
def lookup? (key : Value) : Entries → Option Value
  | [] => none
  | (k, v) :: rest => if sameKey k key then some v else lookup? key rest

/-- The value at a text key. -/
def get? (entries : Entries) (name : String) : Option Value :=
  lookup? (.text name) entries

/-- The entries with later equal keys folded into the first of them. -/
def ofEntries (entries : Entries) : Entries :=
  entries.foldl (fun acc (k, v) => insert k v acc) []

/-- The items with later equal ones left out. -/
def distinct (items : List Value) : List Value :=
  items.foldl (fun acc v => if acc.any (sameKey · v) then acc else acc ++ [v]) []

end Value

end LibraryCatalogue
