import LibraryCatalogue.Proofs.Value.Fields

/-!
# What freezing leaves of a value

Lists and tuples are frozen alike, so thawing does not undo freezing: what was a tuple comes back as a
list.  Nothing else is lost.

* `Value.unpacked` — the value with every tuple outside sets and keys made a list; `thaw_freeze` says
  that this is what comes back;
* `Value.holdsTuple` — whether there is such a tuple; `unpacked_eq_self_iff` says that a value comes
  back as it was exactly when there is none;
* `freeze_unpacked` — nothing more is lost by freezing once more;
* `Value.keyRows` — the keys of all mappings in a value; `keyRows_freeze` and `keyRows_thaw` say that
  they stay, in their order.
-/

namespace LibraryCatalogue.Value

/-! ## There and back -/

mutual

/-- The value with every tuple made a list; keys and sets stay as they are. -/
def unpacked : Value → Value
  | .list items => .list (unpackedItems items)
  | .tuple items => .list (unpackedItems items)
  | .map entries => .map (unpackedEntries entries)
  | v => v

/-- The items of a row, each with its tuples made lists. -/
def unpackedItems : List Value → List Value
  | [] => []
  | v :: rest => unpacked v :: unpackedItems rest

/-- The entries of a mapping, each value with its tuples made lists. -/
def unpackedEntries : Entries → Entries
  | [] => []
  | (k, v) :: rest => (k, unpacked v) :: unpackedEntries rest

end

mutual

/-- **What comes back of a frozen value is the value with its tuples made lists.** -/
theorem thaw_freeze : ∀ v : Value, thaw (freeze v) = unpacked v
  | .list items => by rw [freeze, thaw, unpacked, thawItems_freezeItems items]
  | .tuple items => by rw [freeze, thaw, unpacked, thawItems_freezeItems items]
  | .map entries => by rw [freeze, thaw, unpacked, thawEntries_freezeEntries entries]
  | .null | .bool _ | .int _ | .float _ | .text _ | .bytes _ | .date _ | .moment _ | .set _ => rfl

theorem thawItems_freezeItems : ∀ items : List Value,
    thawItems (freezeItems items) = unpackedItems items
  | [] => rfl
  | v :: rest => by
    rw [freezeItems, thawItems, unpackedItems, thaw_freeze v, thawItems_freezeItems rest]

theorem thawEntries_freezeEntries : ∀ entries : Entries,
    thawEntries (freezeEntries entries) = unpackedEntries entries
  | [] => rfl
  | (k, v) :: rest => by
    rw [freezeEntries, thawEntries, unpackedEntries, thaw_freeze v, thawEntries_freezeEntries rest]

end

/-- A tuple inside a set stays a tuple. -/
example : (Value.tuple [.int 1, .set [.tuple [.int 2]]]).freeze.thaw =
    .list [.int 1, .set [.tuple [.int 2]]] := rfl

mutual

/-- What is lost by freezing is lost at once. -/
theorem freeze_unpacked : ∀ v : Value, freeze (unpacked v) = freeze v
  | .list items => by rw [unpacked, freeze, freeze, freezeItems_unpackedItems items]
  | .tuple items => by rw [unpacked, freeze, freeze, freezeItems_unpackedItems items]
  | .map entries => by rw [unpacked, freeze, freeze, freezeEntries_unpackedEntries entries]
  | .null | .bool _ | .int _ | .float _ | .text _ | .bytes _ | .date _ | .moment _ | .set _ => rfl

theorem freezeItems_unpackedItems : ∀ items : List Value,
    freezeItems (unpackedItems items) = freezeItems items
  | [] => rfl
  | v :: rest => by
    rw [unpackedItems, freezeItems, freezeItems, freeze_unpacked v, freezeItems_unpackedItems rest]

theorem freezeEntries_unpackedEntries : ∀ entries : Entries,
    freezeEntries (unpackedEntries entries) = freezeEntries entries
  | [] => rfl
  | (k, v) :: rest => by
    rw [unpackedEntries, freezeEntries, freezeEntries, freeze_unpacked v,
      freezeEntries_unpackedEntries rest]

end

/-! ## Tuples -/

mutual

/-- Whether a tuple is in a value; those inside keys and sets do not count. -/
def holdsTuple : Value → Bool
  | .tuple _ => true
  | .list items => itemsHoldTuple items
  | .map entries => entriesHoldTuple entries
  | _ => false

/-- Whether a tuple is in one of the items of a row. -/
def itemsHoldTuple : List Value → Bool
  | [] => false
  | v :: rest => holdsTuple v || itemsHoldTuple rest

/-- Whether a tuple is in one of the values of a mapping. -/
def entriesHoldTuple : Entries → Bool
  | [] => false
  | (_, v) :: rest => holdsTuple v || entriesHoldTuple rest

end

mutual

/-- **A value comes back as it was exactly when no tuple is in it.** -/
theorem unpacked_eq_self_iff : ∀ v : Value, unpacked v = v ↔ holdsTuple v = false
  | .list items => by
    rw [unpacked, holdsTuple, Value.list.injEq, unpackedItems_eq_self_iff items]
  | .tuple items => by simp [unpacked, holdsTuple]
  | .map entries => by
    rw [unpacked, holdsTuple, Value.map.injEq, unpackedEntries_eq_self_iff entries]
  | .null | .bool _ | .int _ | .float _ | .text _ | .bytes _ | .date _ | .moment _ | .set _ => by
    simp [unpacked, holdsTuple]

theorem unpackedItems_eq_self_iff : ∀ items : List Value,
    unpackedItems items = items ↔ itemsHoldTuple items = false
  | [] => by simp [unpackedItems, itemsHoldTuple]
  | v :: rest => by
    rw [unpackedItems, itemsHoldTuple, List.cons.injEq, unpacked_eq_self_iff v,
      unpackedItems_eq_self_iff rest, Bool.or_eq_false_iff]

theorem unpackedEntries_eq_self_iff : ∀ entries : Entries,
    unpackedEntries entries = entries ↔ entriesHoldTuple entries = false
  | [] => by simp [unpackedEntries, entriesHoldTuple]
  | (k, v) :: rest => by
    rw [unpackedEntries, entriesHoldTuple, List.cons.injEq, Prod.mk.injEq, unpacked_eq_self_iff v,
      unpackedEntries_eq_self_iff rest, Bool.or_eq_false_iff, and_iff_right rfl]

end

/-! ## Keys -/

mutual

/-- The keys of the mappings in a value, one row for each mapping, the outer ones first. -/
def keyRows : Value → List (List Value)
  | .list items => keyRowsOfItems items
  | .tuple items => keyRowsOfItems items
  | .map entries => entries.map (·.1) :: keyRowsOfEntries entries
  | _ => []

/-- The keys of the mappings in the items of a row. -/
def keyRowsOfItems : List Value → List (List Value)
  | [] => []
  | v :: rest => keyRows v ++ keyRowsOfItems rest

/-- The keys of the mappings in the values of a mapping. -/
def keyRowsOfEntries : Entries → List (List Value)
  | [] => []
  | (_, v) :: rest => keyRows v ++ keyRowsOfEntries rest

end

mutual

/-- **Freezing leaves all keys in their places.** -/
theorem keyRows_freeze : ∀ v : Value, keyRows (freeze v) = keyRows v
  | .list items => by rw [freeze, keyRows, keyRows, keyRowsOfItems_freezeItems items]
  | .tuple items => by rw [freeze, keyRows, keyRows, keyRowsOfItems_freezeItems items]
  | .map entries => by
    rw [freeze, keyRows, keyRows, keyRowsOfEntries_freezeEntries entries, keys_freezeEntries]
  | .null | .bool _ | .int _ | .float _ | .text _ | .bytes _ | .date _ | .moment _ | .set _ => rfl

theorem keyRowsOfItems_freezeItems : ∀ items : List Value,
    keyRowsOfItems (freezeItems items) = keyRowsOfItems items
  | [] => rfl
  | v :: rest => by
    rw [freezeItems, keyRowsOfItems, keyRowsOfItems, keyRows_freeze v,
      keyRowsOfItems_freezeItems rest]

theorem keyRowsOfEntries_freezeEntries : ∀ entries : Entries,
    keyRowsOfEntries (freezeEntries entries) = keyRowsOfEntries entries
  | [] => rfl
  | (k, v) :: rest => by
    rw [freezeEntries, keyRowsOfEntries, keyRowsOfEntries, keyRows_freeze v,
      keyRowsOfEntries_freezeEntries rest]

end

mutual

/-- **Thawing leaves all keys in their places.** -/
theorem keyRows_thaw : ∀ v : Value, keyRows (thaw v) = keyRows v
  | .tuple items => by rw [thaw, keyRows, keyRows, keyRowsOfItems_thawItems items]
  | .map entries => by
    rw [thaw, keyRows, keyRows, keyRowsOfEntries_thawEntries entries, keys_thawEntries]
  | .list _ | .null | .bool _ | .int _ | .float _ | .text _ | .bytes _ | .date _ | .moment _
  | .set _ => rfl

theorem keyRowsOfItems_thawItems : ∀ items : List Value,
    keyRowsOfItems (thawItems items) = keyRowsOfItems items
  | [] => rfl
  | v :: rest => by
    rw [thawItems, keyRowsOfItems, keyRowsOfItems, keyRows_thaw v, keyRowsOfItems_thawItems rest]

theorem keyRowsOfEntries_thawEntries : ∀ entries : Entries,
    keyRowsOfEntries (thawEntries entries) = keyRowsOfEntries entries
  | [] => rfl
  | (k, v) :: rest => by
    rw [thawEntries, keyRowsOfEntries, keyRowsOfEntries, keyRows_thaw v,
      keyRowsOfEntries_thawEntries rest]

end

end LibraryCatalogue.Value
