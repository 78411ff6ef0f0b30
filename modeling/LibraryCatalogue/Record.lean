import LibraryCatalogue.Rule

/-!
# Records

* `Fields` — the fields of a record, in the order in which they were first written; a field may be
  present without a value;
* `Fields.get?`, `Fields.insert` — reading and writing one field;
* `Fields.normalise` — every key in its normal form, later fields over earlier ones.
-/

namespace LibraryCatalogue

/-- The fields of a record. -/
abbrev Fields := List (FieldKey × Option String)

namespace Fields

/-- The value of a field; none when the field is absent or has no value. -/
def get? (fields : Fields) (key : FieldKey) : Option String :=
  (fields.lookup key).join

/-- The record after a write: a field that is there keeps its place. -/
def insert (key : FieldKey) (value : Option String) : Fields → Fields
  | [] => [(key, value)]
  | (k, v) :: rest => if k = key then (k, value) :: rest else (k, v) :: insert key value rest

/-- The record with every key in its normal form; of fields that become one the last counts. -/
def normalise (fields : Fields) : Fields :=
  fields.foldl (fun acc (k, v) => insert k.normal v acc) []

theorem lookup_insert (fields : Fields) (key : FieldKey) (value : Option String) (k : FieldKey) :
    (insert key value fields).lookup k = if k = key then some value else fields.lookup k := by
  induction fields with
  | nil =>
    by_cases h : k = key
    · simp [insert, h]
    · simp [insert, List.lookup_cons, h, beq_eq_false_iff_ne.2 h]
  | cons e rest ih =>
    obtain ⟨k', v'⟩ := e
    by_cases hk : k' = key
    · subst hk
      by_cases h : k = k'
      · simp [insert, h]
      · simp [insert, List.lookup_cons, h, beq_eq_false_iff_ne.2 h]
    · by_cases h : k = k'
      · subst h
        simp [insert, hk]
      · simp [insert, List.lookup_cons, hk, beq_eq_false_iff_ne.2 h, ih]

/-- Reading after writing. -/
theorem get?_insert (fields : Fields) (key : FieldKey) (value : Option String) (k : FieldKey) :
    get? (insert key value fields) k = if k = key then value else get? fields k := by
  by_cases h : k = key <;> simp [get?, lookup_insert, h]

end Fields

end LibraryCatalogue
