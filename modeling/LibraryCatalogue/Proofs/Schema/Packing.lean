import LibraryCatalogue.Proofs.Results
import LibraryCatalogue.Proofs.Value.Fields
import LibraryCatalogue.Schema.Entry

/-!
# Checks do not see how rows are packed

A definition is frozen when it is loaded, and an entry is thawed before its schema looks at it.
Neither changes what the schema finds, faults included.

* `Value.row?`, `Value.rowAt?` — the items that stand where a list of entries is expected;
  `optional_entryList` says that these are what is checked;
* `Value.blockAt?` — the fields that stand where a block is expected, and `optional_block` likewise;
* `Value.Repacked`, `repacking_freeze`, `repacking_thaw` — what freezing and thawing have in common:
  rows are packed anew, and the values in mappings, and nothing else changes;
* `Blind` — a check that gives the same for a value and the repacked one;
* `CatalogueEntry.blind_check`, `DoctypeEntry.blind_check`, `SpecialMappingEntry.blind_check` — so are
  the checks of all entries.
-/

namespace LibraryCatalogue

namespace Value

/-! ## Rows -/

/-- The items of a value where a list of entries is expected: nothing stands for none, and one mapping
for itself. -/
def row? : Value → Option (List Value)
  | .null => some []
  | .map entries => some [.map entries]
  | .list vs | .tuple vs | .set vs => some vs
  | _ => none

/-- The items under a name where a list of entries is expected; a name that is not there has none. -/
def rowAt? (entries : Entries) (name : String) : Option (List Value) :=
  match get? entries name with
  | some v => v.row?
  | none => some []

theorem rowAt?_eq_none_iff {fields : Entries} {name : String} :
    rowAt? fields name = none ↔ ∃ v, get? fields name = some v ∧ v.row? = none := by
  unfold rowAt?
  cases get? fields name <;> simp

/-- The block under a name; null stands for an empty one, as does a name that is not there. -/
def blockAt? (entries : Entries) (name : String) : Option Entries :=
  match get? entries name with
  | none | some .null => some []
  | some (.map block) => some block
  | _ => none

/-! ## Repacking -/

/-- What becomes of a value when rows, and the values in mappings, are packed anew by `f`. -/
inductive Repacked (f : Value → Value) : Value → Value → Prop where
  | same (v : Value) : Repacked f v v
  | row {v w : Value} {vs : List Value} (hv : v = .list vs ∨ v = .tuple vs)
      (hw : w = .list (vs.map f) ∨ w = .tuple (vs.map f)) : Repacked f v w
  | map (entries : Entries) :
      Repacked f (.map entries) (.map (entries.map fun (k, v) => (k, f v)))

/-- A function packs rows anew and changes nothing else. -/
def Repacking (f : Value → Value) : Prop :=
  ∀ v, Repacked f v (f v)

theorem repacking_freeze : Repacking freeze := by
  intro v
  cases v with
  | list vs => exact .row (Or.inl rfl) (Or.inr (by rw [freeze, freezeItems_eq_map]))
  | tuple vs => exact .row (Or.inr rfl) (Or.inr (by rw [freeze, freezeItems_eq_map]))
  | map entries =>
    rw [freeze, freezeEntries_eq_map]
    exact .map entries
  | _ => exact .same _

theorem repacking_thaw : Repacking thaw := by
  intro v
  cases v with
  | tuple vs => exact .row (Or.inr rfl) (Or.inl (by rw [thaw, thawItems_eq_map]))
  | map entries =>
    rw [thaw, thawEntries_eq_map]
    exact .map entries
  | _ => exact .same _

/-- Repacking keeps the items of a row, or repacks each of them. -/
theorem Repacked.row? {f : Value → Value} (hf : Repacking f) {v : Value} {vs : List Value}
    (h : v.row? = some vs) : (f v).row? = some vs ∨ (f v).row? = some (vs.map f) := by
  have hv := hf v
  generalize hw : f v = w at hv
  cases hv with
  | same => exact Or.inl h
  | row hv' hw' =>
    rcases hv' with rfl | rfl <;> rcases hw' with rfl | rfl <;> cases h <;> exact Or.inr rfl
  | map entries =>
    cases h
    refine Or.inr ?_
    rw [List.map_singleton, hw]
    rfl

end Value

namespace Schema

open Value Results

/-! ## Checks of lists -/

section Lists

variable {α : Type} {check : Value → Checked α}

/-- **What is checked where a list of entries is expected are the items of the row.** -/
theorem entryList_eq (check : Value → Checked α) (v : Value) :
    entryList check v = match v.row? with
      | some vs => items check 0 vs
      | none => .fail .notList := by
  cases v <;> rfl

theorem optional_entryList (entries : Entries) (name : String) (check : Value → Checked α) :
    optional entries name [] (entryList check) =
      Checked.under (.field name) (match rowAt? entries name with
        | some vs => items check 0 vs
        | none => .fail .notList) := by
  unfold optional rowAt?
  cases get? entries name with
  | none => rfl
  | some v => simp only [entryList_eq]

/-- What is checked where a block is expected are its fields, when null and an empty block come to the
same and nothing else is a block. -/
theorem optional_block (entries : Entries) (name : String) {d : α} {problem : Problem}
    {body : Entries → Checked α} (hnull : check .null = .ok d) (hempty : body [] = .ok d)
    (hmap : ∀ block, check (.map block) = body block)
    (hother : ∀ v, v ≠ .null → (∀ block, v ≠ .map block) → check v = .fail problem) :
    optional entries name d check =
      Checked.under (.field name) (match blockAt? entries name with
        | some block => body block
        | none => .fail problem) := by
  unfold optional blockAt?
  cases get? entries name with
  | none =>
    simp only [hempty]
    rfl
  | some v =>
    cases v with
    | null => simp only [hnull, hempty]
    | map block => simp only [hmap]
    | _ => exact congrArg (Checked.under (.field name)) (hother _ nofun nofun)

/-- **The rules of a catalogue are those of its block.** -/
theorem optional_checkRules (entries : Entries) :
    optional entries "beautify" [] checkRules =
      Checked.under (.field "beautify") (match blockAt? entries "beautify" with
        | some block => optional block "setvalue" [] (entryList RuleEntry.check)
        | none => .fail (.notMapping "BeautifySpec")) := by
  refine optional_block entries "beautify" rfl rfl (fun _ => rfl) ?_
  intro v hnull hmap
  cases v with
  | null => exact absurd rfl hnull
  | map block => exact absurd rfl (hmap block)
  | _ => rfl

end Lists

/-! ## Blind checks -/

/-- A check gives the same for a value and for what `f` makes of it. -/
def Blind {α : Type} (f : Value → Value) (check : Value → Checked α) : Prop :=
  ∀ v, check (f v) = check v

/-- A check has one answer for all rows and mappings: that they do not fit. -/
def Flat {α : Type} (check : Value → Checked α) : Prop :=
  ∃ fs, ∀ vs entries, check (.list vs) = .error fs ∧ check (.tuple vs) = .error fs ∧
    check (.map entries) = .error fs

theorem flat_numericText : Flat numericText :=
  ⟨_, fun _ _ => ⟨rfl, rfl, rfl⟩⟩

theorem Flat.nonempty {check : Value → Checked String} (h : Flat check) :
    Flat (nonempty check) := by
  obtain ⟨fs, hfs⟩ := h
  refine ⟨fs, fun vs entries => ?_⟩
  obtain ⟨hlist, htuple, hmap⟩ := hfs vs entries
  simp only [Schema.nonempty, hlist, htuple, hmap]
  exact ⟨rfl, rfl, rfl⟩

theorem Flat.nullable {α : Type} {check : Value → Checked α} (h : Flat check) :
    Flat (nullable check) := by
  obtain ⟨fs, hfs⟩ := h
  refine ⟨fs, fun vs entries => ?_⟩
  obtain ⟨hlist, htuple, hmap⟩ := hfs vs entries
  simp only [Schema.nullable, hlist, htuple, hmap]
  exact ⟨rfl, rfl, rfl⟩

theorem flat_checkPort : Flat checkPort :=
  ⟨_, fun _ _ => ⟨rfl, rfl, rfl⟩⟩

theorem flat_truthValue : Flat truthValue :=
  ⟨_, fun _ _ => ⟨rfl, rfl, rfl⟩⟩

section Blind

variable {α : Type} {f : Value → Value} {check : Value → Checked α}

theorem Flat.blind (h : Flat check) (hf : Repacking f) : Blind f check := by
  obtain ⟨fs, hfs⟩ := h
  intro v
  have hv := hf v
  generalize f v = w at hv
  cases hv with
  | same => rfl
  | @row _ _ vs hv' hw' =>
    obtain ⟨hlist, htuple, _⟩ := hfs vs []
    obtain ⟨hlist', htuple', _⟩ := hfs (vs.map f) []
    rcases hv' with rfl | rfl <;> rcases hw' with rfl | rfl <;> simp only [*]
  | map entries => rw [(hfs [] _).2.2, (hfs [] _).2.2]

theorem Blind.field (h : Blind f check) (entries : Entries) (name : String) :
    field (entries.map fun (k, v) => (k, f v)) name check = field entries name check := by
  unfold Schema.field
  rw [get?_map]
  cases get? entries name with
  | none => rfl
  | some v => exact congrArg (Checked.under (.field name)) (h v)

theorem Blind.optional (h : Blind f check) (entries : Entries) (name : String) (default : α) :
    optional (entries.map fun (k, v) => (k, f v)) name default check =
      optional entries name default check := by
  unfold Schema.optional
  rw [get?_map]
  cases get? entries name with
  | none => rfl
  | some v => exact congrArg (Checked.under (.field name)) (h v)

theorem Blind.items (h : Blind f check) (n : Nat) (vs : List Value) :
    items check n (vs.map f) = items check n vs := by
  induction vs generalizing n with
  | nil => rfl
  | cons v rest ih => rw [List.map_cons, Schema.items, Schema.items, h v, ih]

theorem Blind.listOf (h : Blind f check) (hf : Repacking f) : Blind f (listOf check) := by
  intro v
  have hv := hf v
  generalize f v = w at hv
  cases hv with
  | same => rfl
  | row hv' hw' =>
    rcases hv' with rfl | rfl <;> rcases hw' with rfl | rfl <;> exact h.items 0 _
  | map entries => rfl

theorem Blind.entryList (h : Blind f check) (hf : Repacking f) : Blind f (entryList check) := by
  intro v
  rw [entryList_eq, entryList_eq]
  cases hrow : v.row? with
  | some vs =>
    rcases Repacked.row? hf hrow with hsame | hmap
    · rw [hsame]
    · rw [hmap]
      exact h.items 0 vs
  | none =>
    have hv := hf v
    generalize f v = w at hv
    cases hv with
    | same => rw [hrow]
    | row hv' _ => rcases hv' with rfl | rfl <;> cases hrow
    | map entries => cases hrow

/-- A check of the fields of a mapping is blind when it is blind in each field. -/
theorem blind_mapping (hf : Repacking f) {schema : String} {body : Entries → Checked α}
    (hbody : ∀ entries, body (entries.map fun (k, v) => (k, f v)) = body entries) :
    Blind f fun v => mapping schema v >>= body := by
  intro v
  have hv := hf v
  generalize f v = w at hv
  cases hv with
  | same => rfl
  | row hv' hw' => rcases hv' with rfl | rfl <;> rcases hw' with rfl | rfl <;> rfl
  | map entries => exact hbody entries

end Blind

/-! ## The checks of entries -/

section Entries

variable {f : Value → Value}

theorem ConditionEntry.blind_check (hf : Repacking f) : Blind f ConditionEntry.check := by
  refine blind_mapping hf fun entries => ?_
  simp only [(flat_numericText.blind hf).field, (flat_numericText.nonempty.blind hf).field,
    (flat_numericText.nullable.blind hf).optional]

theorem RuleEntry.blind_check (hf : Repacking f) : Blind f RuleEntry.check := by
  refine blind_mapping hf fun entries => ?_
  simp only [(flat_numericText.blind hf).field, (flat_numericText.nonempty.blind hf).field,
    (flat_numericText.nullable.blind hf).optional,
    ((ConditionEntry.blind_check hf).entryList hf).optional]

theorem blind_checkRules (hf : Repacking f) : Blind f checkRules := by
  intro v
  have hv := hf v
  generalize f v = w at hv
  cases hv with
  | same => rfl
  | row hv' hw' => rcases hv' with rfl | rfl <;> rcases hw' with rfl | rfl <;> rfl
  | map entries => exact ((RuleEntry.blind_check hf).entryList hf).optional entries "setvalue" []

theorem SpecialMappingEntry.blind_check (hf : Repacking f) :
    Blind f SpecialMappingEntry.check := by
  refine blind_mapping hf fun entries => ?_
  simp only [(flat_numericText.nonempty.blind hf).field]

theorem ConnectionEntry.blind_check (hf : Repacking f) : Blind f ConnectionEntry.check := by
  refine blind_mapping hf fun entries => ?_
  simp only [(flat_numericText.blind hf).field, (flat_numericText.blind hf).optional,
    (flat_checkPort.blind hf).field, (flat_numericText.nullable.blind hf).optional]

/-- **The check of a catalogue does not see how its rows are packed.** -/
theorem CatalogueEntry.blind_check (hf : Repacking f) : Blind f CatalogueEntry.check := by
  refine blind_mapping hf fun entries => ?_
  simp only [(flat_numericText.blind hf).field, (ConnectionEntry.blind_check hf).field,
    (blind_checkRules hf).optional, ((SpecialMappingEntry.blind_check hf).entryList hf).optional]

theorem blind_checkCodes (hf : Repacking f) : Blind f checkCodes := by
  intro v
  have hv := hf v
  generalize f v = w at hv
  cases hv with
  | same => rfl
  | row hv' hw' =>
    rcases hv' with rfl | rfl <;> rcases hw' with rfl | rfl <;>
      exact (flat_numericText.blind hf).items 0 _
  | map entries => rfl

theorem checkFlag_map (hf : Repacking f) (entries : Entries) (name other : String) :
    checkFlag (entries.map fun (k, v) => (k, f v)) name other = checkFlag entries name other := by
  unfold checkFlag
  rw [get?_map]
  cases get? entries name with
  | none => exact (flat_truthValue.blind hf).optional entries other false
  | some v => exact congrArg (Checked.under (.field name)) (flat_truthValue.blind hf v)

/-- **The check of a document type does not see how its rows are packed.** -/
theorem DoctypeEntry.blind_check (hf : Repacking f) : Blind f DoctypeEntry.check := by
  refine blind_mapping hf fun entries => ?_
  simp only [(flat_numericText.blind hf).field, checkFlag_map hf, (blind_checkCodes hf).optional]

end Entries

end Schema

end LibraryCatalogue
