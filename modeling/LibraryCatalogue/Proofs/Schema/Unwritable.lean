import LibraryCatalogue.Proofs.Schema.Packing

/-!
# What a check is given up at

A check collects all the faults that it finds, but for one thing: at an integer that has too many
digits to be written it is given up, wherever that integer stands, and nothing is said of the faults.
This happens exactly when such an integer stands where a text is expected.

* `under_eq_unwritable_iff`, `both_eq_unwritable_iff`, `items_eq_unwritable_iff`,
  `field_eq_unwritable_iff` — a check is given up exactly when a part of it is;
* `Value.Overlong`, `OverlongAt`, `InRow` — integers that cannot be written, and where they stand;
* `ConditionEntry.Unwritable`, `RuleEntry.Unwritable`, `SpecialMappingEntry.Unwritable`,
  `ConnectionEntry.Unwritable`, `CatalogueEntry.Unwritable`, `DoctypeEntry.Unwritable` — entries with
  one of them in the place of a text;
* `CatalogueEntry.check_eq_unwritable_iff` — the check of a catalogue is given up at these, and
  likewise for the others.
-/

namespace LibraryCatalogue

open Value Results

namespace Schema

/-! ## Checks that are given up -/

section Checks

variable {α β : Type}

theorem both_eq_unwritable_iff {c : Checked α} {d : Checked β} :
    c.both d = .error .unwritable ↔ c = .error .unwritable ∨ d = .error .unwritable := by
  cases c with
  | ok a => cases d <;> simp [Checked.both]
  | error f =>
    cases d with
    | ok b => simp [Checked.both]
    | error g => cases f <;> cases g <;> simp [Checked.both, Finding.both]

theorem under_eq_unwritable_iff {s : Step} {c : Checked α} :
    Checked.under s c = .error .unwritable ↔ c = .error .unwritable := by
  cases c with
  | ok a => simp [Checked.under, mapError_ok]
  | error f => cases f <;> simp [Checked.under, mapError_error, Finding.under]

theorem andFaults_eq_unwritable_iff {c : Checked α} {extra : List Fault} :
    c.andFaults extra = .error .unwritable ↔ c = .error .unwritable := by
  cases c with
  | ok a => cases extra <;> simp [Checked.andFaults]
  | error f => cases f <;> simp [Checked.andFaults, Finding.both]

theorem fail_ne_unwritable (p : Problem) : (Checked.fail p : Checked α) ≠ .error .unwritable := by
  simp [Checked.fail]

/-- **A row of items is given up exactly when one of them is.** -/
theorem items_eq_unwritable_iff {check : Value → Checked α} {n : Nat} {vs : List Value} :
    items check n vs = .error .unwritable ↔ ∃ v ∈ vs, check v = .error .unwritable := by
  induction vs generalizing n with
  | nil => simp [items]
  | cons v rest ih =>
    rw [items, map_eq_error_iff, both_eq_unwritable_iff, under_eq_unwritable_iff, ih]
    simp

theorem field_eq_unwritable_iff {entries : Entries} {name : String} {check : Value → Checked α} :
    field entries name check = .error .unwritable ↔
      ∃ v, get? entries name = some v ∧ check v = .error .unwritable := by
  unfold field
  rw [under_eq_unwritable_iff]
  cases get? entries name with
  | none => simp [fail_ne_unwritable]
  | some v => simp

theorem optional_eq_unwritable_iff {entries : Entries} {name : String} {default : α}
    {check : Value → Checked α} :
    optional entries name default check = .error .unwritable ↔
      ∃ v, get? entries name = some v ∧ check v = .error .unwritable := by
  unfold optional
  cases get? entries name with
  | none => simp
  | some v => simp [under_eq_unwritable_iff]

/-- The check of a mapping is given up exactly when the check of its fields is. -/
theorem mapping_bind_eq_unwritable_iff {schema : String} {body : Entries → Checked α}
    {P : Entries → Prop} (hbody : ∀ entries, body entries = .error .unwritable ↔ P entries)
    {v : Value} :
    (mapping schema v >>= body) = .error .unwritable ↔ ∃ entries, v = .map entries ∧ P entries := by
  rw [bind_eq_error_iff]
  cases v with
  | map entries => simp [mapping, hbody]
  | _ => simp [mapping, Checked.fail]

/-- What is made of the result of a check plays no part. -/
theorem bind_ok_eq_unwritable_iff {c : Checked α} {make : α → β} :
    (c >>= fun a => .ok (make a)) = .error .unwritable ↔ c = .error .unwritable := by
  rw [bind_eq_error_iff]
  simp

end Checks

end Schema

/-! ## Integers that cannot be written -/

/-- An integer with more digits than can be written. -/
def Value.Overlong (v : Value) : Prop :=
  ∃ i, v = .int i ∧ isWritableInteger i = false

namespace Schema

theorem numericText_eq_unwritable_iff {v : Value} :
    numericText v = .error .unwritable ↔ v.Overlong := by
  unfold Value.Overlong
  cases v with
  | int i => cases hi : isWritableInteger i <;> simp [numericText, hi]
  | bytes bs =>
    simp only [numericText, text, reduceCtorEq, false_and, exists_false, iff_false]
    split <;> simp [Checked.fail]
  | _ => simp [numericText, text, Checked.fail]

theorem nonempty_eq_unwritable_iff {v : Value} :
    nonempty numericText v = .error .unwritable ↔ v.Overlong := by
  rw [nonempty, bind_eq_error_iff, numericText_eq_unwritable_iff, or_iff_left_iff_imp]
  rintro ⟨s, _, h⟩
  split at h
  · cases h
  · cases h

theorem nullable_eq_unwritable_iff {v : Value} :
    nullable numericText v = .error .unwritable ↔ v.Overlong := by
  rw [← numericText_eq_unwritable_iff]
  by_cases hnull : v = .null
  · simp [hnull, nullable, numericText, text, Checked.fail]
  · rw [nullable_of_ne_null numericText hnull, map_eq_error_iff]

/-- Under a name stands an integer that cannot be written. -/
def OverlongAt (entries : Entries) (name : String) : Prop :=
  ∃ v, get? entries name = some v ∧ v.Overlong

/-- Under a name stands a row with a mapping of some sort in it. -/
def InRow (P : Entries → Prop) (entries : Entries) (name : String) : Prop :=
  ∃ vs, rowAt? entries name = some vs ∧ ∃ fields, .map fields ∈ vs ∧ P fields

section Fields

variable {entries : Entries} {name : String}

theorem field_text_eq_unwritable_iff :
    field entries name numericText = .error .unwritable ↔ OverlongAt entries name := by
  simp only [field_eq_unwritable_iff, numericText_eq_unwritable_iff, OverlongAt]

theorem field_nonempty_eq_unwritable_iff :
    field entries name (nonempty numericText) = .error .unwritable ↔ OverlongAt entries name := by
  simp only [field_eq_unwritable_iff, nonempty_eq_unwritable_iff, OverlongAt]

theorem optional_text_eq_unwritable_iff {default : String} :
    optional entries name default numericText = .error .unwritable ↔ OverlongAt entries name := by
  simp only [optional_eq_unwritable_iff, numericText_eq_unwritable_iff, OverlongAt]

theorem optional_nullable_eq_unwritable_iff :
    optional entries name none (nullable numericText) = .error .unwritable ↔
      OverlongAt entries name := by
  simp only [optional_eq_unwritable_iff, nullable_eq_unwritable_iff, OverlongAt]

theorem optional_entryList_eq_unwritable_iff {α : Type} {check : Value → Checked α}
    {P : Entries → Prop}
    (hcheck : ∀ v, check v = .error .unwritable ↔ ∃ fields, v = .map fields ∧ P fields) :
    optional entries name [] (entryList check) = .error .unwritable ↔ InRow P entries name := by
  rw [optional_entryList, under_eq_unwritable_iff]
  unfold InRow
  cases rowAt? entries name with
  | none => simp [fail_ne_unwritable]
  | some vs =>
    simp only [items_eq_unwritable_iff, hcheck, Option.some.injEq, exists_eq_left']
    constructor
    · rintro ⟨_, hmem, fields, rfl, hfields⟩
      exact ⟨fields, hmem, hfields⟩
    · rintro ⟨fields, hmem, hfields⟩
      exact ⟨_, hmem, fields, rfl, hfields⟩

end Fields

/-! ## Entries -/

/-- In a condition an integer that cannot be written stands for a text. -/
def ConditionEntry.Unwritable (entries : Entries) : Prop :=
  ∃ name ∈ ["tag", "subtag", "value", "mode"], OverlongAt entries name

/-- In a rule, or in one of its conditions, an integer that cannot be written stands for a text. -/
def RuleEntry.Unwritable (entries : Entries) : Prop :=
  (∃ name ∈ ["tag", "subtag", "value", "mode"], OverlongAt entries name) ∨
    InRow ConditionEntry.Unwritable entries "condition"

/-- In a special mapping an integer that cannot be written stands for a text. -/
def SpecialMappingEntry.Unwritable (entries : Entries) : Prop :=
  ∃ name ∈ ["type", "value"], OverlongAt entries name

/-- Where it is said how to reach a catalogue, an integer that cannot be written stands for a text. -/
def ConnectionEntry.Unwritable (entries : Entries) : Prop :=
  ∃ name ∈ ["description", "address", "database", "ucnf", "charset"], OverlongAt entries name

/-- Somewhere in a catalogue an integer that cannot be written stands for a text. -/
inductive CatalogueEntry.Unwritable (entries : Entries) : Prop where
  | title : OverlongAt entries "title" → Unwritable entries
  | connection {fields : Entries} : get? entries "config" = some (.map fields) →
      ConnectionEntry.Unwritable fields → Unwritable entries
  | rule {block : Entries} : blockAt? entries "beautify" = some block →
      InRow RuleEntry.Unwritable block "setvalue" → Unwritable entries
  | specialMapping : InRow SpecialMappingEntry.Unwritable entries "specialmapping" →
      Unwritable entries

/-- Somewhere in a document type an integer that cannot be written stands for a text. -/
inductive DoctypeEntry.Unwritable (entries : Entries) : Prop where
  | title : OverlongAt entries "title" → Unwritable entries
  | code {v : Value} {vs : List Value} {code : Value} : get? entries "mapping" = some v →
      v = .list vs ∨ v = .tuple vs ∨ v = .set vs → code ∈ vs → code.Overlong → Unwritable entries

theorem ConditionEntry.check_eq_unwritable_iff (v : Value) :
    ConditionEntry.check v = .error .unwritable ↔
      ∃ entries, v = .map entries ∧ ConditionEntry.Unwritable entries := by
  refine mapping_bind_eq_unwritable_iff fun entries => bind_ok_eq_unwritable_iff.trans ?_
  simp only [both_eq_unwritable_iff, field_nonempty_eq_unwritable_iff,
    optional_nullable_eq_unwritable_iff, field_text_eq_unwritable_iff, Unwritable,
    List.exists_mem_cons_iff, List.not_mem_nil, false_and, exists_false, or_false]

theorem RuleEntry.check_eq_unwritable_iff (v : Value) :
    RuleEntry.check v = .error .unwritable ↔
      ∃ entries, v = .map entries ∧ RuleEntry.Unwritable entries := by
  refine mapping_bind_eq_unwritable_iff fun entries => bind_ok_eq_unwritable_iff.trans ?_
  simp only [both_eq_unwritable_iff, field_nonempty_eq_unwritable_iff,
    optional_nullable_eq_unwritable_iff, field_text_eq_unwritable_iff,
    optional_entryList_eq_unwritable_iff ConditionEntry.check_eq_unwritable_iff, Unwritable,
    List.exists_mem_cons_iff, List.not_mem_nil, false_and, exists_false, or_false, or_assoc]

theorem SpecialMappingEntry.check_eq_unwritable_iff (v : Value) :
    SpecialMappingEntry.check v = .error .unwritable ↔
      ∃ entries, v = .map entries ∧ SpecialMappingEntry.Unwritable entries := by
  refine mapping_bind_eq_unwritable_iff fun entries => bind_ok_eq_unwritable_iff.trans ?_
  simp only [both_eq_unwritable_iff, field_nonempty_eq_unwritable_iff, Unwritable,
    List.exists_mem_cons_iff, List.not_mem_nil, false_and, exists_false, or_false]

theorem integerOfText_ne_unwritable (s : String) : integerOfText s ≠ .error .unwritable := by
  unfold integerOfText plainInteger
  dsimp only
  repeat' split
  all_goals simp [Checked.fail]

theorem integer_ne_unwritable (v : Value) : integer v ≠ .error .unwritable := by
  unfold integer
  repeat' split
  all_goals simp [Checked.fail, integerOfText_ne_unwritable]

/-- An integer stands for a port as it is: however long, it need not be written. -/
theorem checkPort_ne_unwritable (v : Value) : checkPort v ≠ .error .unwritable := by
  have hpositive : positive v ≠ .error .unwritable := by
    unfold positive
    rw [ne_eq, bind_eq_error_iff]
    rintro (h | ⟨i, _, h⟩)
    · exact integer_ne_unwritable v h
    · split at h <;> cases h
  cases v with
  | bool b => simp [checkPort, Checked.fail]
  | _ => exact hpositive

theorem ConnectionEntry.check_eq_unwritable_iff (v : Value) :
    ConnectionEntry.check v = .error .unwritable ↔
      ∃ entries, v = .map entries ∧ ConnectionEntry.Unwritable entries := by
  refine mapping_bind_eq_unwritable_iff fun entries => bind_ok_eq_unwritable_iff.trans ?_
  have hport : field entries "port" checkPort ≠ .error .unwritable := by
    rw [ne_eq, field_eq_unwritable_iff]
    rintro ⟨v, _, hv⟩
    exact checkPort_ne_unwritable v hv
  simp only [both_eq_unwritable_iff, optional_text_eq_unwritable_iff, field_text_eq_unwritable_iff,
    optional_nullable_eq_unwritable_iff, hport, false_or, Unwritable, List.exists_mem_cons_iff,
    List.not_mem_nil, false_and, exists_false, or_false]

theorem optional_rules_eq_unwritable_iff {entries : Entries} :
    optional entries "beautify" [] checkRules = .error .unwritable ↔
      ∃ block, blockAt? entries "beautify" = some block ∧
        InRow RuleEntry.Unwritable block "setvalue" := by
  rw [optional_checkRules, under_eq_unwritable_iff]
  cases blockAt? entries "beautify" with
  | none => simp [fail_ne_unwritable]
  | some block =>
    simp only [optional_entryList_eq_unwritable_iff RuleEntry.check_eq_unwritable_iff,
      Option.some.injEq, exists_eq_left']

/-- **The check of a catalogue is given up exactly when an integer that cannot be written stands
somewhere in it for a text.** -/
theorem CatalogueEntry.check_eq_unwritable_iff (v : Value) :
    CatalogueEntry.check v = .error .unwritable ↔
      ∃ entries, v = .map entries ∧ CatalogueEntry.Unwritable entries := by
  refine mapping_bind_eq_unwritable_iff fun entries => bind_ok_eq_unwritable_iff.trans ?_
  have hconfig : field entries "config" ConnectionEntry.check = .error .unwritable ↔
      ∃ fields, get? entries "config" = some (.map fields) ∧ ConnectionEntry.Unwritable fields := by
    simp only [field_eq_unwritable_iff, ConnectionEntry.check_eq_unwritable_iff]
    constructor
    · rintro ⟨_, hget, fields, rfl, h⟩
      exact ⟨fields, hget, h⟩
    · rintro ⟨fields, hget, h⟩
      exact ⟨_, hget, fields, rfl, h⟩
  simp only [both_eq_unwritable_iff, field_text_eq_unwritable_iff, hconfig,
    optional_rules_eq_unwritable_iff,
    optional_entryList_eq_unwritable_iff SpecialMappingEntry.check_eq_unwritable_iff]
  constructor
  · rintro (h | ⟨fields, hget, h⟩ | ⟨block, hblock, h⟩ | h)
    · exact .title h
    · exact .connection hget h
    · exact .rule hblock h
    · exact .specialMapping h
  · rintro (h | ⟨hget, h⟩ | ⟨hblock, h⟩ | h)
    · exact Or.inl h
    · exact Or.inr (Or.inl ⟨_, hget, h⟩)
    · exact Or.inr (Or.inr (Or.inl ⟨_, hblock, h⟩))
    · exact Or.inr (Or.inr (Or.inr h))

theorem truthValue_ne_unwritable (v : Value) : truthValue v ≠ .error .unwritable := by
  have hinteger (i : Int) : truthValueOfInteger i ≠ .error .unwritable := by
    unfold truthValueOfInteger
    repeat' split
    all_goals simp [Checked.fail]
  have htext (s : String) : truthValueOfText s ≠ .error .unwritable := by
    unfold truthValueOfText
    dsimp only
    repeat' split
    all_goals simp [Checked.fail]
  unfold truthValue
  repeat' split
  all_goals simp [Checked.fail, hinteger, htext]

theorem checkFlag_ne_unwritable (entries : Entries) (name other : String) :
    checkFlag entries name other ≠ .error .unwritable := by
  unfold checkFlag
  split
  · rw [ne_eq, under_eq_unwritable_iff]
    exact truthValue_ne_unwritable _
  · rw [ne_eq, optional_eq_unwritable_iff]
    rintro ⟨v, _, hv⟩
    exact truthValue_ne_unwritable v hv

/-- The codes of a document type are given up exactly at an integer in a row of them. -/
theorem checkCodes_eq_unwritable_iff {v : Value} :
    checkCodes v = .error .unwritable ↔
      ∃ vs, (v = .list vs ∨ v = .tuple vs ∨ v = .set vs) ∧ ∃ code ∈ vs, code.Overlong := by
  have hitems (vs : List Value) :
      items numericText 0 vs = .error .unwritable ↔ ∃ code ∈ vs, code.Overlong := by
    simp only [items_eq_unwritable_iff, numericText_eq_unwritable_iff]
  cases v with
  | list vs | tuple vs | set vs => simpa [checkCodes, listOf] using hitems vs
  | _ => simp [checkCodes, listOf, Checked.fail]

/-- **The check of a document type is given up exactly when an integer that cannot be written stands
somewhere in it for a text.** -/
theorem DoctypeEntry.check_eq_unwritable_iff (v : Value) :
    DoctypeEntry.check v = .error .unwritable ↔
      ∃ entries, v = .map entries ∧ DoctypeEntry.Unwritable entries := by
  refine mapping_bind_eq_unwritable_iff fun entries => bind_ok_eq_unwritable_iff.trans ?_
  simp only [both_eq_unwritable_iff, field_text_eq_unwritable_iff, checkFlag_ne_unwritable, false_or,
    optional_eq_unwritable_iff, checkCodes_eq_unwritable_iff]
  constructor
  · rintro (h | ⟨v, hget, vs, hrow, code, hmem, hcode⟩)
    · exact .title h
    · exact .code hget hrow hmem hcode
  · rintro (h | ⟨hget, hrow, hmem, hcode⟩)
    · exact Or.inl h
    · exact Or.inr ⟨_, hget, _, hrow, _, hmem, hcode⟩

end Schema

end LibraryCatalogue
