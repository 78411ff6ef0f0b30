import LibraryCatalogue.Endpoint
import LibraryCatalogue.Proofs.Formats.Plan

/-!
# Reading the entries of a plan

The checks of a schema look at names only, and what they read does not depend on the style in which
an entry was written.

* `optional_listSlot`, `optional_blockSlot` — a list, and a block around one, written or left out;
* `RuleEntry.check_form`, `CataloguePlan.check_slots_eq` — an entry in two styles is checked alike,
  faults included;
* `CataloguePlan.Tagged`, `CataloguePlan.check_tagged`, `DoctypeEntry.check_slots` — an entry whose
  tags are there is read as it was meant.
-/

namespace LibraryCatalogue

open Schema Value

/-! ## Lists and blocks -/

/-- A list is written as it is, or left out when it is empty. -/
theorem listSlot_cases (bare : Bool) (vs : List Value) :
    (listSlot bare vs = none ∧ vs = []) ∨ listSlot bare vs = some (.list vs) := by
  unfold listSlot
  split
  · rename_i h
    rw [Bool.and_eq_true, List.isEmpty_iff] at h
    exact Or.inl ⟨rfl, h.2⟩
  · exact Or.inr rfl

/-- A block is written around its list, or left out when the list is empty. -/
theorem Style.blockSlot_cases (w : Style) (name : String) (vs : List Value) :
    (w.blockSlot name vs = none ∧ vs = []) ∨
      w.blockSlot name vs = some (.map (fieldsOf [(name, listSlot w.bareLists vs)])) := by
  unfold Style.blockSlot
  split
  · rename_i h
    rw [Bool.and_eq_true, List.isEmpty_iff] at h
    exact Or.inl ⟨rfl, h.2⟩
  · exact Or.inr rfl

namespace Schema

theorem foreignKeys_fieldsOf (slots : List (String × Option Value)) :
    foreignKeys (fieldsOf slots) = [] := by
  unfold foreignKeys
  rw [List.filterMap_eq_nil_iff]
  intro e he
  obtain ⟨n, v, _, rfl⟩ := mem_fieldsOf he
  rfl

section Rows

variable {α β : Type} {check : Value → Checked β} {xs : List α}

theorem items_congr {f g : α → Value} (h : ∀ x ∈ xs, check (f x) = check (g x)) (n : Nat) :
    items check n (xs.map f) = items check n (xs.map g) := by
  induction xs generalizing n with
  | nil => rfl
  | cons x xs ih =>
    simp only [List.map_cons, items]
    rw [h x List.mem_cons_self, ih fun y hy => h y (List.mem_cons_of_mem x hy)]

theorem items_eq_ok {f : α → Value} {g : α → β} (h : ∀ x ∈ xs, check (f x) = .ok (g x)) (n : Nat) :
    items check n (xs.map f) = .ok (xs.map g) := by
  induction xs generalizing n with
  | nil => rfl
  | cons x xs ih =>
    simp only [List.map_cons, items]
    rw [h x List.mem_cons_self, ih fun y hy => h y (List.mem_cons_of_mem x hy)]
    rfl

/-- A list is read item by item, and one that is left out as one without items. -/
theorem optional_listSlot {entries : Entries} {name : String} {bare : Bool} {vs : List Value}
    {checkAll : Value → Checked (List β)} (hcheck : ∀ vs, checkAll (.list vs) = items check 0 vs)
    (h : get? entries name = listSlot bare vs) :
    optional entries name [] checkAll = Checked.under (.field name) (items check 0 vs) := by
  unfold optional
  rw [h]
  rcases listSlot_cases bare vs with ⟨hs, rfl⟩ | hs
  · rw [hs]
    rfl
  · simp only [hs, hcheck]

/-- A block is read as its list, and one that is left out as one without items. -/
theorem optional_blockSlot {entries : Entries} {name inner : String} {w : Style} {vs : List Value}
    {checkBlock : Value → Checked (List β)}
    (hcheck : ∀ {es}, get? es inner = listSlot w.bareLists vs → foreignKeys es = [] →
      checkBlock (.map es) = Checked.under (.field inner) (items check 0 vs))
    (h : get? entries name = w.blockSlot inner vs) :
    optional entries name [] checkBlock =
      Checked.under (.field name) (Checked.under (.field inner) (items check 0 vs)) := by
  have hget : get? (fieldsOf [(inner, listSlot w.bareLists vs)]) inner =
      listSlot w.bareLists vs := by simp
  unfold optional
  rw [h]
  rcases w.blockSlot_cases inner vs with ⟨hs, rfl⟩ | hs
  · rw [hs]
    rfl
  · simp only [hs, hcheck hget (foreignKeys_fieldsOf _)]

end Rows

/-! ## Fields -/

theorem field_congr {α : Type} {x y : Entries} {name : String} (h : get? x name = get? y name)
    (check : Value → Checked α) : field x name check = field y name check := by
  unfold field
  rw [h]

theorem optional_congr {α : Type} {x y : Entries} {name : String} (h : get? x name = get? y name)
    (default : α) (check : Value → Checked α) :
    optional x name default check = optional y name default check := by
  unfold optional
  rw [h]

section Texts

variable {entries : Entries} {name : String}

theorem field_of_ok {α : Type} {check : Value → Checked α} {v : Value} {a : α}
    (h : get? entries name = some v) (hv : check v = .ok a) : field entries name check = .ok a := by
  unfold field
  rw [h]
  show Checked.under _ (check v) = _
  rw [hv]
  rfl

theorem field_text {s : String} (h : get? entries name = some (.text s)) :
    field entries name numericText = .ok s :=
  field_of_ok h rfl

theorem field_nonempty {s : String} (h : get? entries name = some (.text s)) (hs : s ≠ "") :
    field entries name (nonempty numericText) = .ok s := by
  have hempty : s.isEmpty = false := by simpa using hs
  apply field_of_ok h
  show (if s.isEmpty = true then _ else _) = _
  rw [hempty]
  rfl

theorem optional_nullable {s? : Option String} (h : get? entries name = s?.map .text) :
    optional entries name none (nullable numericText) = .ok s? := by
  unfold optional
  rw [h]
  cases s? <;> rfl

theorem optional_text {s? : Option String} (h : get? entries name = s?.map .text)
    (default : String) : optional entries name default numericText = .ok (s?.getD default) := by
  unfold optional
  rw [h]
  cases s? <;> rfl

end Texts

/-! ## Rules and special mappings -/

/-- What is read of the texts of a condition or a rule, when what is written behind them has other
names. -/
theorem get?_ruleTexts {tag value : String} {subtag mode : Option String}
    {more : List (String × Option Value)}
    (hmore : ∀ name ∈ ["tag", "subtag", "value", "mode"], get? (fieldsOf more) name = none) :
    let entries := fieldsOf (textSlots (ruleTexts tag subtag value mode) ++ more)
    get? entries "tag" = some (.text tag) ∧ get? entries "subtag" = subtag.map .text ∧
      get? entries "value" = some (.text value) ∧ get? entries "mode" = mode.map .text := by
  simp only [List.forall_mem_cons, List.not_mem_nil, false_imp_iff, implies_true, and_true] at hmore
  obtain ⟨_, hsubtag, _, hmode⟩ := hmore
  simp [ruleTexts, textSlots, hsubtag, hmode]

theorem ConditionEntry.get?_texts (c : ConditionEntry) :
    get? (fieldsOf (textSlots c.texts)) "tag" = some (.text c.tag) ∧
      get? (fieldsOf (textSlots c.texts)) "subtag" = c.subtag.map .text ∧
      get? (fieldsOf (textSlots c.texts)) "value" = some (.text c.value) ∧
      get? (fieldsOf (textSlots c.texts)) "mode" = c.mode.map .text := by
  rw [texts, ← List.append_nil (textSlots _)]
  exact get?_ruleTexts fun _ _ => rfl

/-- A condition with a tag is read as it was meant. -/
theorem ConditionEntry.check_tagged {c : ConditionEntry} (h : c.tag ≠ "") :
    ConditionEntry.check c.form = .ok c := by
  obtain ⟨htag, hsubtag, hvalue, hmode⟩ := c.get?_texts
  simp only [check, form, mapping, bind, Except.bind]
  rw [field_nonempty htag h, optional_nullable hsubtag, field_text hvalue, optional_nullable hmode]
  rfl

/-- The fields of a rule but for its conditions. -/
theorem RuleEntry.get?_slots (w : Style) (r : RuleEntry) :
    get? (fieldsOf (r.slots w)) "tag" = some (.text r.tag) ∧
      get? (fieldsOf (r.slots w)) "subtag" = r.subtag.map .text ∧
      get? (fieldsOf (r.slots w)) "value" = some (.text r.value) ∧
      get? (fieldsOf (r.slots w)) "mode" = r.mode.map .text := by
  apply get?_ruleTexts
  simp

theorem RuleEntry.optional_conditions (w : Style) (r : RuleEntry) :
    optional (fieldsOf (r.slots w)) "condition" [] (entryList ConditionEntry.check) =
      Checked.under (.field "condition")
        (items ConditionEntry.check 0 (r.conditions.map ConditionEntry.form)) := by
  have hslot : get? (fieldsOf (r.slots w)) "condition" =
      listSlot w.bareLists (r.conditions.map ConditionEntry.form) := by
    simp [slots, texts, ruleTexts, textSlots]
  exact optional_listSlot (fun _ => rfl) hslot

/-- **A rule in two styles is checked alike.** -/
theorem RuleEntry.check_form (w w' : Style) (r : RuleEntry) :
    RuleEntry.check (r.form w) = RuleEntry.check (r.form w') := by
  obtain ⟨htag, hsubtag, hvalue, hmode⟩ := r.get?_slots w
  obtain ⟨htag', hsubtag', hvalue', hmode'⟩ := r.get?_slots w'
  simp only [check, form, mapping, bind, Except.bind]
  rw [field_congr (htag.trans htag'.symm), field_congr (hvalue.trans hvalue'.symm),
    optional_congr (hsubtag.trans hsubtag'.symm), optional_congr (hmode.trans hmode'.symm),
    r.optional_conditions w, r.optional_conditions w']

/-- A rule whose tags are there is read as it was meant. -/
theorem RuleEntry.check_tagged (w : Style) {r : RuleEntry} (h : r.tag ≠ "")
    (hc : ∀ c ∈ r.conditions, c.tag ≠ "") : RuleEntry.check (r.form w) = .ok r := by
  obtain ⟨htag, hsubtag, hvalue, hmode⟩ := r.get?_slots w
  have hconditions := r.optional_conditions w
  rw [items_eq_ok fun c hmem => c.check_tagged (hc c hmem), List.map_id'] at hconditions
  simp only [check, form, mapping, bind, Except.bind]
  rw [field_nonempty htag h, optional_nullable hsubtag, field_text hvalue, optional_nullable hmode,
    hconditions]
  rfl

/-- A special mapping with a title and a code is read as it was meant. -/
theorem SpecialMappingEntry.check_form {s : SpecialMappingEntry} (h : s.doctypeTitle ≠ "")
    (hc : s.code ≠ "") : SpecialMappingEntry.check s.form = .ok s := by
  simp only [check, form, mapping, bind, Except.bind]
  rw [field_nonempty rfl h, field_nonempty rfl hc]
  rfl

end Schema

/-! ## Catalogues and document types -/

/-- How to reach a catalogue, as it is read. -/
def CataloguePlan.connection (c : CataloguePlan) : ConnectionEntry :=
  ⟨c.description, c.address, c.database, c.port, c.userClause.getD "", c.charset⟩

theorem CataloguePlan.check_connection {w : Style} (hw : w.spelling.Faithful) {c : CataloguePlan}
    (h : c.Renderable) :
    ConnectionEntry.check (.map (fieldsOf (c.connectionSlots w))) = .ok c.connection := by
  obtain ⟨entries, hentries⟩ : ∃ entries, entries = fieldsOf (c.connectionSlots w) := ⟨_, rfl⟩
  have hdescription : get? entries "description" = (some c.description).map .text := by
    simp [hentries, connectionSlots]
  have haddress : get? entries "address" = some (.text c.address) := by
    simp [hentries, connectionSlots]
  have hdatabase : get? entries "database" = some (.text c.database) := by
    simp [hentries, connectionSlots]
  have hport : get? entries "port" = some (w.spelling.port c.port) := by
    simp [hentries, connectionSlots]
  have hclause : get? entries "ucnf" = c.userClause.map .text := by
    simp [hentries, connectionSlots]
  have hcharset : get? entries "charset" = c.charset.map .text := by
    simp [hentries, connectionSlots]
  simp only [ConnectionEntry.check, mapping, bind, Except.bind, ← hentries]
  rw [optional_text hdescription, field_text haddress, field_text hdatabase,
    field_of_ok hport (hw.port c.port h.port_pos h.port_length), optional_text hclause,
    optional_nullable hcharset]
  rfl

/-- **What a catalogue is read as, in every faithful style.**  Only its rules and its special mappings
can be at fault. -/
theorem CataloguePlan.check_slots {w : Style} (hw : w.spelling.Faithful) {c : CataloguePlan}
    (h : c.Renderable) :
    CatalogueEntry.check (.map (fieldsOf (c.slots w))) =
      ((Checked.under (.field "beautify") (Checked.under (.field "setvalue")
          (items RuleEntry.check 0 (c.rules.map (RuleEntry.form w))))).both
        (Checked.under (.field "specialmapping") (items SpecialMappingEntry.check 0
          (c.specialMappings.map SpecialMappingEntry.form)))).map
        fun (rules, specialMappings) => ⟨c.title, c.connection, rules, specialMappings⟩ := by
  obtain ⟨entries, hentries⟩ : ∃ entries, entries = fieldsOf (c.slots w) := ⟨_, rfl⟩
  have htitle : get? entries "title" = some (.text c.title) := by simp [hentries, slots]
  have hconfig : get? entries "config" = some (.map (fieldsOf (c.connectionSlots w))) := by
    simp [hentries, slots]
  have hbeautify : get? entries "beautify" =
      w.blockSlot "setvalue" (c.rules.map (RuleEntry.form w)) := by simp [hentries, slots]
  have hspecials : get? entries "specialmapping" =
      listSlot w.bareLists (c.specialMappings.map SpecialMappingEntry.form) := by
    simp [hentries, slots]
  have hrules : optional entries "beautify" [] checkRules =
      Checked.under (.field "beautify") (Checked.under (.field "setvalue")
        (items RuleEntry.check 0 (c.rules.map (RuleEntry.form w)))) := by
    refine optional_blockSlot ?_ hbeautify
    exact fun hget _ => optional_listSlot (fun _ => rfl) hget
  have hmappings : optional entries "specialmapping" [] (entryList SpecialMappingEntry.check) =
      Checked.under (.field "specialmapping") (items SpecialMappingEntry.check 0
        (c.specialMappings.map SpecialMappingEntry.form)) :=
    optional_listSlot (fun _ => rfl) hspecials
  simp only [CatalogueEntry.check, mapping, bind, Except.bind, ← hentries]
  rw [field_text htitle, field_of_ok hconfig (check_connection hw h), hrules, hmappings]
  -- Title and connection have no faults, so those of the two lists are all there are.
  generalize Checked.under (.field "beautify") _ = rules
  generalize Checked.under (.field "specialmapping") _ = specialMappings
  cases rules <;> cases specialMappings <;> rfl

/-- **A catalogue in two faithful styles is checked alike.** -/
theorem CataloguePlan.check_slots_eq {w w' : Style} (hw : w.spelling.Faithful)
    (hw' : w'.spelling.Faithful) {c : CataloguePlan} (h : c.Renderable) :
    CatalogueEntry.check (.map (fieldsOf (c.slots w))) =
      CatalogueEntry.check (.map (fieldsOf (c.slots w'))) := by
  rw [check_slots hw h, check_slots hw' h, items_congr fun r _ => r.check_form w w']

/-- What a catalogue needs to be read without faults: tags and titles are texts of at least one
character. -/
structure CataloguePlan.Tagged (c : CataloguePlan) : Prop where
  rules : ∀ r ∈ c.rules, r.tag ≠ "" ∧ ∀ x ∈ r.conditions, x.tag ≠ ""
  titles : ∀ s ∈ c.specialMappings, s.doctypeTitle ≠ ""

/-- **A catalogue with tags and titles is read as it was meant.** -/
theorem CataloguePlan.check_tagged {w : Style} (hw : w.spelling.Faithful) {c : CataloguePlan}
    (h : c.Renderable) (ht : c.Tagged) :
    CatalogueEntry.check (.map (fieldsOf (c.slots w))) =
      .ok ⟨c.title, c.connection, c.rules, c.specialMappings⟩ := by
  rw [check_slots hw h,
    items_eq_ok fun r hr => r.check_tagged w (ht.rules r hr).1 (ht.rules r hr).2,
    items_eq_ok fun s hs => SpecialMappingEntry.check_form (ht.titles s hs) (h.codes s hs).1,
    List.map_id', List.map_id']
  rfl

theorem Schema.checkFlag_of_ok {entries : Entries} {name : String} {v : Value} {b : Bool}
    (h : get? entries name = some v) (hv : truthValue v = .ok b) (other : String) :
    checkFlag entries name other = .ok b := by
  unfold checkFlag
  rw [h]
  show Checked.under _ (truthValue v) = _
  rw [hv]
  rfl

/-- **A document type is read as it was meant, in every faithful style.** -/
theorem Schema.DoctypeEntry.check_slots {w : Style} (hw : w.spelling.Faithful) (d : DoctypeEntry) :
    DoctypeEntry.check (.map (fieldsOf (d.slots w))) = .ok d := by
  obtain ⟨entries, hentries⟩ : ∃ entries, entries = fieldsOf (d.slots w) := ⟨_, rfl⟩
  have htitle : get? entries "title" = some (.text d.title) := by simp [hentries, slots]
  have hperiodical : get? entries "isPeriodical" = some (w.spelling.flag d.periodical) := by
    simp [hentries, slots]
  have hvolumes : get? entries "isMultiVolume" = some (w.spelling.flag d.multiVolume) := by
    simp [hentries, slots]
  have hcontained : get? entries "isContainedWork" = some (w.spelling.flag d.containedWork) := by
    simp [hentries, slots]
  have hmapping : get? entries "mapping" = listSlot w.bareLists (d.codes.map .text) := by
    simp [hentries, slots]
  have hcodes : optional entries "mapping" [] checkCodes = .ok d.codes := by
    have hlist : optional entries "mapping" [] checkCodes =
        Checked.under (.field "mapping") (items numericText 0 (d.codes.map .text)) :=
      optional_listSlot (fun _ => rfl) hmapping
    have htexts : ∀ code ∈ d.codes, numericText (.text code) = .ok code := fun _ _ => rfl
    rw [hlist, items_eq_ok htexts, List.map_id']
    rfl
  simp only [check, mapping, bind, Except.bind, ← hentries]
  rw [field_text htitle, checkFlag_of_ok hperiodical (hw.flag _),
    checkFlag_of_ok hvolumes (hw.flag _), checkFlag_of_ok hcontained (hw.flag _), hcodes]
  rfl

end LibraryCatalogue
