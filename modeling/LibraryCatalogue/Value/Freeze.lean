import LibraryCatalogue.Value.Basic

/-!
# Frozen values

A definition is kept frozen: no list is left in it.  Before a schema looks at an entry, the entry is
thawed again.  Sets are left alone in both directions.

* `Value.freeze` — lists and tuples become tuples, everywhere outside sets;
* `Value.thaw` — tuples become lists, inside mappings and tuples;
* `Value.asList` — the one-entry shorthand: nothing stands for the empty list, and a mapping for the
  list that holds it.
-/

namespace LibraryCatalogue.Value

mutual

/-- The value with every list made a tuple. -/
def freeze : Value → Value
  | .list items => .tuple (freezeItems items)
  | .tuple items => .tuple (freezeItems items)
  | .map entries => .map (freezeEntries entries)
  | v => v

/-- Freezes the items of a list. -/
def freezeItems : List Value → List Value
  | [] => []
  | v :: rest => freeze v :: freezeItems rest

/-- Freezes the values of a mapping; the keys stay. -/
def freezeEntries : Entries → Entries
  | [] => []
  | (k, v) :: rest => (k, freeze v) :: freezeEntries rest

end

mutual

/-- The value with every tuple made a list. -/
def thaw : Value → Value
  | .tuple items => .list (thawItems items)
  | .map entries => .map (thawEntries entries)
  | v => v

/-- Thaws the items of a tuple. -/
def thawItems : List Value → List Value
  | [] => []
  | v :: rest => thaw v :: thawItems rest

/-- Thaws the values of a mapping; the keys stay. -/
def thawEntries : Entries → Entries
  | [] => []
  | (k, v) :: rest => (k, thaw v) :: thawEntries rest

end

/-- Accepts one mapping, or nothing, where a list of entries is expected. -/
def asList : Value → Value
  | .null => .list []
  | .map entries => .list [.map entries]
  | v => v

theorem freezeItems_eq_map (items : List Value) : freezeItems items = items.map freeze := by
  induction items with
  | nil => rfl
  | cons v rest ih => simp [freezeItems, ih]

theorem freezeEntries_eq_map (entries : Entries) :
    freezeEntries entries = entries.map fun (k, v) => (k, freeze v) := by
  induction entries with
  | nil => rfl
  | cons e rest ih => simp [freezeEntries, ih]

theorem thawItems_eq_map (items : List Value) : thawItems items = items.map thaw := by
  induction items with
  | nil => rfl
  | cons v rest ih => simp [thawItems, ih]

theorem thawEntries_eq_map (entries : Entries) :
    thawEntries entries = entries.map fun (k, v) => (k, thaw v) := by
  induction entries with
  | nil => rfl
  | cons e rest ih => simp [thawEntries, ih]

end LibraryCatalogue.Value
