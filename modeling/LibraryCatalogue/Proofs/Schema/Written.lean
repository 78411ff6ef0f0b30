import LibraryCatalogue.Endpoint
import LibraryCatalogue.Proofs.Schema.Packing

/-!
# What an entry has written in it

A schema is stated here as a relation between the fields of a mapping and what is read of them, field
by field; a check succeeds with exactly what is so related.

* `under_eq_ok_iff`, `both_eq_ok_iff`, `andFaults_eq_ok_iff`, `items_eq_ok_iff`, `field_eq_ok_iff` —
  checks that find no fault;
* `Says`, `SaysAt`, `MaySay`, `SaysOr` — the text that a value, or the value of a field, says;
* `RowOf` — a row of mappings under a name, item by item; `exists_rowOf_iff` says when there is one;
* `ConditionEntry.WrittenIn`, `RuleEntry.WrittenIn`, `SpecialMappingEntry.WrittenIn`,
  `ConnectionEntry.WrittenIn`, `CatalogueEntry.WrittenIn` — the schemas;
* `CatalogueEntry.check_eq_ok_iff` — what the check of a catalogue gives, and likewise for its parts.
-/

namespace LibraryCatalogue.Schema

open Value Results

/-! ## Checks that find no fault -/

section Checks

variable {α β : Type}

theorem under_eq_ok_iff {s : Step} {c : Checked α} {a : α} :
    Checked.under s c = .ok a ↔ c = .ok a :=
  mapError_eq_ok_iff

theorem both_eq_ok_iff {c : Checked α} {d : Checked β} {p : α × β} :
    c.both d = .ok p ↔ c = .ok p.1 ∧ d = .ok p.2 := by
  obtain ⟨a, b⟩ := p
  cases c <;> cases d <;> simp [Checked.both]

theorem andFaults_eq_ok_iff {c : Checked α} {extra : List Fault} {a : α} :
    c.andFaults extra = .ok a ↔ c = .ok a ∧ extra = [] := by
  cases c with
  | error fs => simp [Checked.andFaults]
  | ok x => cases extra <;> simp [Checked.andFaults]

/-- **A row of items is accepted exactly when each of them is.** -/
theorem items_eq_ok_iff {check : Value → Checked α} {n : Nat} {vs : List Value} {xs : List α} :
    items check n vs = .ok xs ↔ List.Forall₂ (fun v x => check v = .ok x) vs xs := by
  induction vs generalizing n xs with
  | nil => simp [items, eq_comm]
  | cons v rest ih =>
    rw [items, map_eq_ok_iff, List.forall₂_cons_left_iff]
    constructor
    · rintro ⟨⟨y, ys⟩, hp, rfl⟩
      obtain ⟨hv, hrest⟩ := both_eq_ok_iff.1 hp
      exact ⟨y, ys, under_eq_ok_iff.1 hv, ih.1 hrest, rfl⟩
    · rintro ⟨y, ys, hv, hrest, rfl⟩
      exact ⟨(y, ys), both_eq_ok_iff.2 ⟨under_eq_ok_iff.2 hv, ih.2 hrest⟩, rfl⟩

/-- What a field with a default is when it is accepted: the default, or what is written there. -/
theorem optional_eq_ok_iff {entries : Entries} {name : String} {default : α}
    {check : Value → Checked α} {a : α} :
    optional entries name default check = .ok a ↔
      match Value.get? entries name with
      | some v => check v = .ok a
      | none => a = default := by
  unfold optional
  cases Value.get? entries name with
  | none => simp [eq_comm]
  | some v => exact under_eq_ok_iff

theorem mapping_eq_ok_iff {schema : String} {v : Value} {es : Entries} :
    mapping schema v = .ok es ↔ v = .map es := by
  cases v <;> simp [mapping, Checked.fail]

/-- A required field that is accepted is written, and what is written there is accepted. -/
theorem field_eq_ok_iff {entries : Entries} {name : String} {check : Value → Checked α} {a : α} :
    field entries name check = .ok a ↔ ∃ v, Value.get? entries name = some v ∧ check v = .ok a := by
  unfold field
  rw [under_eq_ok_iff]
  cases Value.get? entries name with
  | none => simp [Checked.fail]
  | some v => simp

end Checks

/-! ## Texts -/

/-- A value says a text: it is that text, or its bytes in UTF-8, or a number that is written so.  An
integer of too many digits says none. -/
inductive Says : Value → String → Prop where
  | text (s : String) : Says (.text s) s
  | bytes {bs : List UInt8} {s : String} (h : textOfUtf8? bs = some s) : Says (.bytes bs) s
  | int {i : Int} (h : isWritableInteger i = true) : Says (.int i) (toString i)
  | float (x : Binary64) : Says (.float x) x.text

theorem numericText_eq_ok_iff {v : Value} {s : String} : numericText v = .ok s ↔ Says v s := by
  constructor
  · intro h
    cases v with
    | text t =>
      cases h
      exact .text _
    | bytes bs =>
      simp only [numericText, text] at h
      split at h
      · rename_i t ht
        cases h
        exact .bytes ht
      · cases h
    | int i =>
      simp only [numericText] at h
      split at h
      · rename_i hi
        cases h
        exact .int hi
      · cases h
    | float x =>
      cases h
      exact .float x
    | _ => cases h
  · intro h
    cases h with
    | bytes h => simp only [numericText, text, h]
    | int h => rw [numericText, if_pos h]
    | _ => rfl

theorem nonempty_eq_ok_iff {v : Value} {s : String} :
    nonempty numericText v = .ok s ↔ Says v s ∧ s ≠ "" := by
  unfold nonempty
  rw [bind_eq_ok_iff, ← numericText_eq_ok_iff]
  constructor
  · rintro ⟨t, ht, h⟩
    split at h
    · cases h
    · rename_i hne
      cases h
      exact ⟨ht, by simpa using hne⟩
  · rintro ⟨hs, hne⟩
    exact ⟨s, hs, by rw [if_neg (by simpa using hne)]; rfl⟩

theorem nullable_eq_ok_iff {v : Value} {s? : Option String} :
    nullable numericText v = .ok s? ↔ (v = .null ∧ s? = none) ∨ ∃ s, Says v s ∧ s? = some s := by
  by_cases hnull : v = .null
  · subst hnull
    constructor
    · intro h
      cases h
      exact Or.inl ⟨rfl, rfl⟩
    · rintro (⟨_, rfl⟩ | ⟨s, hs, _⟩)
      · rfl
      · cases hs
  · rw [nullable_of_ne_null numericText hnull, map_eq_ok_iff]
    simp only [numericText_eq_ok_iff, hnull, false_and, false_or, @eq_comm _ s?]

/-- A field is there and says a text. -/
def SaysAt (entries : Entries) (name : String) (s : String) : Prop :=
  ∃ v, get? entries name = some v ∧ Says v s

/-- A field may say a text; otherwise it is not there, or null. -/
def MaySay (entries : Entries) (name : String) : Option String → Prop
  | some s => SaysAt entries name s
  | none => get? entries name = none ∨ get? entries name = some .null

/-- A field says a text, or is not there and some other is meant. -/
def SaysOr (entries : Entries) (name : String) (default s : String) : Prop :=
  SaysAt entries name s ∨ (get? entries name = none ∧ s = default)

section Texts

variable {entries : Entries} {name : String}

theorem field_text_iff {s : String} :
    field entries name numericText = .ok s ↔ SaysAt entries name s := by
  simp only [field_eq_ok_iff, numericText_eq_ok_iff, SaysAt]

theorem field_nonempty_iff {s : String} :
    field entries name (nonempty numericText) = .ok s ↔ SaysAt entries name s ∧ s ≠ "" := by
  simp only [field_eq_ok_iff, nonempty_eq_ok_iff, SaysAt]
  constructor
  · rintro ⟨v, hv, hs, hne⟩
    exact ⟨⟨v, hv, hs⟩, hne⟩
  · rintro ⟨⟨v, hv, hs⟩, hne⟩
    exact ⟨v, hv, hs, hne⟩

theorem optional_nullable_iff {s? : Option String} :
    optional entries name none (nullable numericText) = .ok s? ↔ MaySay entries name s? := by
  rw [optional_eq_ok_iff]
  unfold MaySay SaysAt
  cases get? entries name with
  | none => cases s? <;> simp
  | some v =>
    simp only [nullable_eq_ok_iff]
    cases s? <;> simp

theorem optional_text_iff {default s : String} :
    optional entries name default numericText = .ok s ↔ SaysOr entries name default s := by
  rw [optional_eq_ok_iff]
  unfold SaysOr SaysAt
  cases get? entries name with
  | none => simp
  | some v => simp [numericText_eq_ok_iff]

end Texts

/-! ## Rows of mappings -/

/-- Under a name stands a row of mappings, and they are related to some things one by one. -/
def RowOf {α : Type} (written : α → Entries → Prop) (entries : Entries) (name : String)
    (xs : List α) : Prop :=
  ∃ vs, rowAt? entries name = some vs ∧
    List.Forall₂ (fun v x => ∃ fields, v = .map fields ∧ written x fields) vs xs

/-- The items of a row are what is gone through in its place. -/
theorem itemsOf?_of_row? {v : Value} {vs : List Value} (h : v.row? = some vs) :
    v.asList.itemsOf? = some vs := by
  cases v <;> cases h <;> rfl

theorem itemsOf?_of_rowAt? {entries : Entries} {name : String} {vs : List Value}
    (h : rowAt? entries name = some vs) :
    ((get? entries name).getD .null).asList.itemsOf? = some vs := by
  unfold rowAt? at h
  cases hget : get? entries name with
  | none =>
    rw [hget] at h
    cases h
    rfl
  | some v =>
    rw [hget] at h
    exact itemsOf?_of_row? h

section Mappings

variable {α : Type} {written : α → Entries → Prop}

theorem RowOf.imp {written' : α → Entries → Prop} {entries : Entries} {name : String} {xs : List α}
    (h : ∀ x fields, written x fields → written' x fields) (hx : RowOf written entries name xs) :
    RowOf written' entries name xs := by
  obtain ⟨vs, hrow, hall⟩ := hx
  refine ⟨vs, hrow, hall.imp fun v x hv => ?_⟩
  obtain ⟨fields, hfields, hwritten⟩ := hv
  exact ⟨fields, hfields, h x fields hwritten⟩

/-- There is a row of things under a name exactly when each item has one written in it. -/
theorem exists_rowOf_iff {entries : Entries} {name : String} :
    (∃ xs, RowOf written entries name xs) ↔
      ∃ vs, rowAt? entries name = some vs ∧
        ∀ v ∈ vs, ∃ fields, v = .map fields ∧ ∃ x, written x fields := by
  constructor
  · rintro ⟨xs, vs, hrow, hall⟩
    refine ⟨vs, hrow, fun v hv => ?_⟩
    obtain ⟨x, _, fields, hfields, hwritten⟩ := exists_right_of_forall₂ hall v hv
    exact ⟨fields, hfields, x, hwritten⟩
  · rintro ⟨vs, hrow, hall⟩
    have hexists : ∃ xs, List.Forall₂ (fun v x => ∃ fields, v = .map fields ∧ written x fields)
        vs xs := by
      clear hrow
      induction vs with
      | nil => exact ⟨[], .nil⟩
      | cons v rest ih =>
        obtain ⟨hv, hrest⟩ := List.forall_mem_cons.1 hall
        obtain ⟨fields, hfields, x, hwritten⟩ := hv
        obtain ⟨xs, hxs⟩ := ih hrest
        exact ⟨x :: xs, .cons ⟨fields, hfields, hwritten⟩ hxs⟩
    obtain ⟨xs, hxs⟩ := hexists
    exact ⟨xs, vs, hrow, hxs⟩

/-- What a check of the fields of a mapping gives, when it is known for the fields. -/
theorem mapping_bind_eq_ok_iff {schema : String} {body : Entries → Checked α} {v : Value} {x : α}
    (hbody : ∀ entries, body entries = .ok x ↔ written x entries) :
    (mapping schema v >>= body) = .ok x ↔ ∃ entries, v = .map entries ∧ written x entries := by
  simp only [bind_eq_ok_iff, mapping_eq_ok_iff, hbody]

theorem optional_entryList_iff {check : Value → Checked α} {entries : Entries} {name : String}
    {xs : List α}
    (hcheck : ∀ {v x}, check v = .ok x ↔ ∃ fields, v = .map fields ∧ written x fields) :
    optional entries name [] (entryList check) = .ok xs ↔ RowOf written entries name xs := by
  rw [optional_entryList, under_eq_ok_iff]
  unfold RowOf
  cases rowAt? entries name with
  | none => simp [Checked.fail]
  | some vs => simp only [items_eq_ok_iff, hcheck, Option.some.injEq, exists_eq_left']

end Mappings

/-! ## Conditions, rules and special mappings -/

/-- A condition is written in a mapping. -/
structure ConditionEntry.WrittenIn (c : ConditionEntry) (entries : Entries) : Prop where
  tag : SaysAt entries "tag" c.tag
  tag_ne : c.tag ≠ ""
  subtag : MaySay entries "subtag" c.subtag
  value : SaysAt entries "value" c.value
  mode : MaySay entries "mode" c.mode

theorem ConditionEntry.check_eq_ok_iff {v : Value} {c : ConditionEntry} :
    ConditionEntry.check v = .ok c ↔ ∃ entries, v = .map entries ∧ c.WrittenIn entries := by
  refine mapping_bind_eq_ok_iff fun entries => ?_
  rw [bind_eq_ok_iff]
  constructor
  · rintro ⟨⟨tag, subtag, value, mode⟩, h, heq⟩
    cases heq
    obtain ⟨htag, h⟩ := both_eq_ok_iff.1 h
    obtain ⟨hsubtag, h⟩ := both_eq_ok_iff.1 h
    obtain ⟨hvalue, hmode⟩ := both_eq_ok_iff.1 h
    obtain ⟨htag, hne⟩ := field_nonempty_iff.1 htag
    exact ⟨htag, hne, optional_nullable_iff.1 hsubtag, field_text_iff.1 hvalue,
      optional_nullable_iff.1 hmode⟩
  · intro h
    refine ⟨(c.tag, c.subtag, c.value, c.mode), ?_, rfl⟩
    simp only [both_eq_ok_iff]
    exact ⟨field_nonempty_iff.2 ⟨h.tag, h.tag_ne⟩, optional_nullable_iff.2 h.subtag,
      field_text_iff.2 h.value, optional_nullable_iff.2 h.mode⟩

/-- A rule is written in a mapping. -/
structure RuleEntry.WrittenIn (r : RuleEntry) (entries : Entries) : Prop where
  tag : SaysAt entries "tag" r.tag
  tag_ne : r.tag ≠ ""
  subtag : MaySay entries "subtag" r.subtag
  value : SaysAt entries "value" r.value
  mode : MaySay entries "mode" r.mode
  conditions : RowOf ConditionEntry.WrittenIn entries "condition" r.conditions

theorem RuleEntry.check_eq_ok_iff {v : Value} {r : RuleEntry} :
    RuleEntry.check v = .ok r ↔ ∃ entries, v = .map entries ∧ r.WrittenIn entries := by
  refine mapping_bind_eq_ok_iff fun entries => ?_
  rw [bind_eq_ok_iff]
  constructor
  · rintro ⟨⟨tag, subtag, value, mode, conditions⟩, h, heq⟩
    cases heq
    obtain ⟨htag, h⟩ := both_eq_ok_iff.1 h
    obtain ⟨hsubtag, h⟩ := both_eq_ok_iff.1 h
    obtain ⟨hvalue, h⟩ := both_eq_ok_iff.1 h
    obtain ⟨hmode, hconditions⟩ := both_eq_ok_iff.1 h
    obtain ⟨htag, hne⟩ := field_nonempty_iff.1 htag
    exact ⟨htag, hne, optional_nullable_iff.1 hsubtag, field_text_iff.1 hvalue,
      optional_nullable_iff.1 hmode,
      (optional_entryList_iff ConditionEntry.check_eq_ok_iff).1 hconditions⟩
  · intro h
    refine ⟨(r.tag, r.subtag, r.value, r.mode, r.conditions), ?_, rfl⟩
    simp only [both_eq_ok_iff]
    exact ⟨field_nonempty_iff.2 ⟨h.tag, h.tag_ne⟩, optional_nullable_iff.2 h.subtag,
      field_text_iff.2 h.value, optional_nullable_iff.2 h.mode,
      (optional_entryList_iff ConditionEntry.check_eq_ok_iff).2 h.conditions⟩

/-- The rules of a catalogue are written in a block among its fields. -/
def RulesIn (entries : Entries) (rules : List RuleEntry) : Prop :=
  ∃ block, blockAt? entries "beautify" = some block ∧
    RowOf RuleEntry.WrittenIn block "setvalue" rules

theorem optional_rules_iff {entries : Entries} {rules : List RuleEntry} :
    optional entries "beautify" [] checkRules = .ok rules ↔ RulesIn entries rules := by
  rw [optional_checkRules, under_eq_ok_iff]
  unfold RulesIn
  cases blockAt? entries "beautify" with
  | none => simp [Checked.fail]
  | some block =>
    simp only [optional_entryList_iff RuleEntry.check_eq_ok_iff, Option.some.injEq, exists_eq_left']

/-- A special mapping is written in a mapping. -/
structure SpecialMappingEntry.WrittenIn (s : SpecialMappingEntry) (entries : Entries) : Prop where
  title : SaysAt entries "type" s.doctypeTitle
  title_ne : s.doctypeTitle ≠ ""
  code : SaysAt entries "value" s.code
  code_ne : s.code ≠ ""

theorem SpecialMappingEntry.check_eq_ok_iff {v : Value} {s : SpecialMappingEntry} :
    SpecialMappingEntry.check v = .ok s ↔ ∃ entries, v = .map entries ∧ s.WrittenIn entries := by
  refine mapping_bind_eq_ok_iff fun entries => ?_
  rw [bind_eq_ok_iff]
  constructor
  · rintro ⟨⟨title, code⟩, h, heq⟩
    cases heq
    obtain ⟨htitle, hcode⟩ := both_eq_ok_iff.1 h
    obtain ⟨htitle, htitle_ne⟩ := field_nonempty_iff.1 htitle
    obtain ⟨hcode, hcode_ne⟩ := field_nonempty_iff.1 hcode
    exact ⟨htitle, htitle_ne, hcode, hcode_ne⟩
  · intro h
    refine ⟨(s.doctypeTitle, s.code), ?_, rfl⟩
    simp only [both_eq_ok_iff]
    exact ⟨field_nonempty_iff.2 ⟨h.title, h.title_ne⟩, field_nonempty_iff.2 ⟨h.code, h.code_ne⟩⟩

/-! ## Catalogues -/

/-- A field says a port: a positive integer, but no truth value. -/
def PortAt (entries : Entries) (name : String) (port : Int) : Prop :=
  ∃ v, get? entries name = some v ∧ (∀ b, v ≠ .bool b) ∧ integer v = .ok port ∧ 0 < port

theorem checkPort_eq_ok_iff {v : Value} {port : Int} :
    checkPort v = .ok port ↔ (∀ b, v ≠ .bool b) ∧ integer v = .ok port ∧ 0 < port := by
  have hpositive : positive v = .ok port ↔ integer v = .ok port ∧ 0 < port := by
    unfold positive
    rw [bind_eq_ok_iff]
    constructor
    · rintro ⟨i, hi, h⟩
      split at h
      · rename_i hpos
        cases h
        exact ⟨hi, hpos⟩
      · cases h
    · rintro ⟨hi, hpos⟩
      exact ⟨port, hi, by rw [if_pos hpos]; rfl⟩
  rw [← hpositive]
  cases v with
  | bool b => simp [checkPort, Checked.fail]
  | _ => simp [checkPort]

/-- How to reach a catalogue is written in a mapping. -/
structure ConnectionEntry.WrittenIn (c : ConnectionEntry) (entries : Entries) : Prop where
  description : SaysOr entries "description" "" c.description
  address : SaysAt entries "address" c.address
  database : SaysAt entries "database" c.database
  port : PortAt entries "port" c.port
  userClause : SaysOr entries "ucnf" "" c.userClause
  charset : MaySay entries "charset" c.charset

theorem ConnectionEntry.check_eq_ok_iff {v : Value} {c : ConnectionEntry} :
    ConnectionEntry.check v = .ok c ↔ ∃ entries, v = .map entries ∧ c.WrittenIn entries := by
  refine mapping_bind_eq_ok_iff fun entries => ?_
  have hport {port : Int} :
      field entries "port" checkPort = .ok port ↔ PortAt entries "port" port := by
    simp only [field_eq_ok_iff, checkPort_eq_ok_iff, PortAt]
  rw [bind_eq_ok_iff]
  constructor
  · rintro ⟨⟨description, address, database, port, userClause, charset⟩, h, heq⟩
    cases heq
    obtain ⟨hdescription, h⟩ := both_eq_ok_iff.1 h
    obtain ⟨haddress, h⟩ := both_eq_ok_iff.1 h
    obtain ⟨hdatabase, h⟩ := both_eq_ok_iff.1 h
    obtain ⟨hp, h⟩ := both_eq_ok_iff.1 h
    obtain ⟨hclause, hcharset⟩ := both_eq_ok_iff.1 h
    exact ⟨optional_text_iff.1 hdescription, field_text_iff.1 haddress, field_text_iff.1 hdatabase,
      hport.1 hp, optional_text_iff.1 hclause, optional_nullable_iff.1 hcharset⟩
  · intro h
    refine ⟨(c.description, c.address, c.database, c.port, c.userClause, c.charset), ?_, rfl⟩
    simp only [both_eq_ok_iff]
    exact ⟨optional_text_iff.2 h.description, field_text_iff.2 h.address, field_text_iff.2 h.database,
      hport.2 h.port, optional_text_iff.2 h.userClause, optional_nullable_iff.2 h.charset⟩

/-- A catalogue is written in a mapping. -/
structure CatalogueEntry.WrittenIn (e : CatalogueEntry) (entries : Entries) : Prop where
  title : SaysAt entries "title" e.title
  connection : ∃ fields, get? entries "config" = some (.map fields) ∧ e.connection.WrittenIn fields
  rules : RulesIn entries e.rules
  specialMappings :
    RowOf SpecialMappingEntry.WrittenIn entries "specialmapping" e.specialMappings

/-- **The check of a catalogue gives what is written in it**, and succeeds with nothing else. -/
theorem CatalogueEntry.check_eq_ok_iff {v : Value} {e : CatalogueEntry} :
    CatalogueEntry.check v = .ok e ↔ ∃ entries, v = .map entries ∧ e.WrittenIn entries := by
  refine mapping_bind_eq_ok_iff fun entries => ?_
  have hconfig {c : ConnectionEntry} : field entries "config" ConnectionEntry.check = .ok c ↔
      ∃ fields, get? entries "config" = some (.map fields) ∧ c.WrittenIn fields := by
    rw [field_eq_ok_iff]
    simp only [ConnectionEntry.check_eq_ok_iff]
    constructor
    · rintro ⟨_, hget, fields, rfl, hc⟩
      exact ⟨fields, hget, hc⟩
    · rintro ⟨fields, hget, hc⟩
      exact ⟨_, hget, fields, rfl, hc⟩
  rw [bind_eq_ok_iff]
  constructor
  · rintro ⟨⟨title, connection, rules, specialMappings⟩, h, heq⟩
    cases heq
    obtain ⟨htitle, h⟩ := both_eq_ok_iff.1 h
    obtain ⟨hconnection, h⟩ := both_eq_ok_iff.1 h
    obtain ⟨hrules, hspecials⟩ := both_eq_ok_iff.1 h
    exact ⟨field_text_iff.1 htitle, hconfig.1 hconnection, optional_rules_iff.1 hrules,
      (optional_entryList_iff SpecialMappingEntry.check_eq_ok_iff).1 hspecials⟩
  · intro h
    refine ⟨(e.title, e.connection, e.rules, e.specialMappings), ?_, rfl⟩
    simp only [both_eq_ok_iff]
    exact ⟨field_text_iff.2 h.title, hconfig.2 h.connection, optional_rules_iff.2 h.rules,
      (optional_entryList_iff SpecialMappingEntry.check_eq_ok_iff).2 h.specialMappings⟩

/-- What is read of an entry is what is written in its fields, before and after thawing. -/
theorem CatalogueEntry.check_thaw_eq_ok_iff {fields : Entries} {e : CatalogueEntry} :
    CatalogueEntry.check (Value.map fields).thaw = .ok e ↔ e.WrittenIn fields := by
  rw [CatalogueEntry.blind_check Value.repacking_thaw, CatalogueEntry.check_eq_ok_iff]
  simp

end LibraryCatalogue.Schema
