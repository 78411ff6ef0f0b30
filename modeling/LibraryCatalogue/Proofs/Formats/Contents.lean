import LibraryCatalogue.Definition
import LibraryCatalogue.Proofs.Formats.Reading

/-!
# What is loaded from the forms of a plan

* `CataloguePlan.loose_slots`, `DoctypeEntry.loose_slots` — nothing is lost when entries are frozen;
* `Plan.contents`, `Plan.ofDocument_document` — in every style the document of a plan has the outline
  of a definition, and its entries are loaded in order;
* `CataloguePlan.ofEntry_entry`, `CataloguePlan.specialMappingsOf_entry` — what a loaded catalogue
  resolves to, in two styles;
* `DoctypeEntry.ofEntry_entry` — what a loaded document type resolves to.
-/

namespace LibraryCatalogue

open Schema Value

/-! ## Freezing -/

theorem looseSlot_listSlot (bare : Bool) {vs : List Value} (h : ∀ v ∈ vs, Loose v) :
    LooseSlot (listSlot bare vs) := by
  rcases listSlot_cases bare vs with ⟨hs, _⟩ | hs
  · rw [hs]
    exact fun v hv => by cases hv
  · rw [hs]
    exact looseSlot_some (loose_list h)

theorem looseSlot_blockSlot (w : Style) (name : String) {vs : List Value} (h : ∀ v ∈ vs, Loose v) :
    LooseSlot (w.blockSlot name vs) := by
  rcases w.blockSlot_cases name vs with ⟨hs, _⟩ | hs
  · rw [hs]
    exact fun v hv => by cases hv
  · rw [hs]
    apply looseSlot_some
    apply loose_fieldsOf
    simpa using looseSlot_listSlot w.bareLists h

theorem looseSlot_of_textSlots {texts : List (String × Option String)} :
    ∀ slot ∈ textSlots texts, LooseSlot slot.2 := by
  intro slot hs
  obtain ⟨⟨n, s?⟩, _, rfl⟩ := List.mem_map.1 hs
  exact looseSlot_text s?

theorem Schema.ConditionEntry.loose_form (c : ConditionEntry) : Loose c.form :=
  loose_fieldsOf looseSlot_of_textSlots

theorem Schema.RuleEntry.loose_form (w : Style) (r : RuleEntry) : Loose (r.form w) := by
  apply loose_fieldsOf
  intro slot hs
  rcases List.mem_append.1 hs with hs | hs
  · exact looseSlot_of_textSlots slot hs
  · obtain rfl := List.mem_singleton.1 hs
    apply looseSlot_listSlot
    rw [List.forall_mem_map]
    exact fun c _ => c.loose_form

theorem Schema.SpecialMappingEntry.loose_form (s : SpecialMappingEntry) : Loose s.form := by
  apply loose_fieldsOf
  simp only [List.forall_mem_cons, List.not_mem_nil, false_imp_iff, implies_true, and_true]
  exact ⟨looseSlot_some (loose_text _), looseSlot_some (loose_text _)⟩

theorem CataloguePlan.loose_connectionSlots {w : Style} (hw : w.spelling.Faithful)
    (c : CataloguePlan) : Loose (.map (fieldsOf (c.connectionSlots w))) := by
  apply loose_fieldsOf
  simp only [connectionSlots, List.forall_mem_cons, List.not_mem_nil, false_imp_iff, implies_true,
    and_true]
  exact ⟨looseSlot_some (loose_text _), looseSlot_some (loose_text _),
    looseSlot_some (loose_text _), looseSlot_some (hw.port_loose _), looseSlot_text _,
    looseSlot_text _⟩

theorem CataloguePlan.loose_slots {w : Style} (hw : w.spelling.Faithful) (c : CataloguePlan) :
    Loose (.map (fieldsOf (c.slots w))) := by
  apply loose_fieldsOf
  simp only [slots, List.forall_mem_cons, List.not_mem_nil, false_imp_iff, implies_true, and_true]
  refine ⟨looseSlot_some (loose_text _), looseSlot_some (c.loose_connectionSlots hw),
    looseSlot_blockSlot w _ ?_, looseSlot_listSlot w.bareLists ?_⟩
  · rw [List.forall_mem_map]
    exact fun r _ => r.loose_form w
  · rw [List.forall_mem_map]
    exact fun s _ => s.loose_form

theorem Schema.DoctypeEntry.loose_slots {w : Style} (hw : w.spelling.Faithful) (d : DoctypeEntry) :
    Loose (.map (fieldsOf (d.slots w))) := by
  apply loose_fieldsOf
  simp only [slots, List.forall_mem_cons, List.not_mem_nil, false_imp_iff, implies_true, and_true]
  refine ⟨looseSlot_some (loose_text _), looseSlot_some (hw.flag_loose _),
    looseSlot_some (hw.flag_loose _), looseSlot_some (hw.flag_loose _),
    looseSlot_listSlot w.bareLists ?_⟩
  rw [List.forall_mem_map]
  exact fun code _ => loose_text code

/-! ## Loading -/

/-- A catalogue as it is loaded. -/
def CataloguePlan.entry (w : Style) (c : CataloguePlan) : Entry :=
  ⟨c.title, freezeEntries (fieldsOf (c.slots w))⟩

/-- A document type as it is loaded. -/
def Schema.DoctypeEntry.entry (w : Style) (d : DoctypeEntry) : Entry :=
  ⟨d.title, freezeEntries (fieldsOf (d.slots w))⟩

/-- The contents that are loaded from a plan. -/
def Plan.contents (w : Style) (p : Plan) : Contents :=
  ⟨p.catalogues.map (CataloguePlan.entry w), p.doctypes.map (DoctypeEntry.entry w)⟩

/-- A mapping whose title is a text is loaded as it is. -/
theorem Schema.titled_map {entries : Entries} {title : String}
    (h : get? entries "title" = some (.text title)) (hk : foreignKeys entries = []) :
    titled (.map entries) = .ok ⟨title, freezeEntries entries⟩ := by
  simp only [titled, mapping, bind, Except.bind]
  rw [field_text h, hk]
  show Except.ok (Entry.ofRaw entries title) = _
  rw [Entry.ofRaw, insert_of_get? h]

theorem Schema.Checked.andFaults_nil {α : Type} (c : Checked α) : c.andFaults [] = c := by
  cases c with
  | ok a => rfl
  | error f => simp [Checked.andFaults]

/-- **In every style the document of a plan has the outline of a definition.** -/
theorem Plan.ofDocument_document (w : Style) (p : Plan) (source : String) :
    Contents.ofDocument (p.document w) source = .ok (p.contents w) := by
  have hcatalogues : optional (p.document w) "catalogue" [] titledList =
      .ok (p.catalogues.map (CataloguePlan.entry w)) := by
    have hslot : get? (p.document w) "catalogue" =
        listSlot w.bareLists (p.catalogues.map fun c => .map (fieldsOf (c.slots w))) := by
      simp [document]
    have htitled : ∀ c ∈ p.catalogues,
        titled (.map (fieldsOf (c.slots w))) = .ok (c.entry w) := by
      intro c _
      exact titled_map (by simp [CataloguePlan.slots]) (foreignKeys_fieldsOf _)
    have hlist : optional (p.document w) "catalogue" [] titledList =
        Checked.under (.field "catalogue")
          (items titled 0 (p.catalogues.map fun c => .map (fieldsOf (c.slots w)))) :=
      optional_listSlot (fun _ => rfl) hslot
    rw [hlist, items_eq_ok htitled]
    rfl
  have hdoctypes : optional (p.document w) "doctypes" [] doctypesBlock =
      .ok (p.doctypes.map (DoctypeEntry.entry w)) := by
    have hslot : get? (p.document w) "doctypes" =
        w.blockSlot "type" (p.doctypes.map fun d => .map (fieldsOf (d.slots w))) := by
      simp [document]
    have htitled : ∀ d ∈ p.doctypes,
        titled (.map (fieldsOf (d.slots w))) = .ok (d.entry w) := by
      intro d _
      exact titled_map (by simp [DoctypeEntry.slots]) (foreignKeys_fieldsOf _)
    have hblock : optional (p.document w) "doctypes" [] doctypesBlock =
        Checked.under (.field "doctypes") (Checked.under (.field "type")
          (items titled 0 (p.doctypes.map fun d => .map (fieldsOf (d.slots w))))) := by
      refine optional_blockSlot ?_ hslot
      intro entries hget hk
      show (optional entries "type" [] titledList).andFaults (foreignKeys entries) = _
      rw [hk, Checked.andFaults_nil]
      exact optional_listSlot (fun _ => rfl) hget
    rw [hblock, items_eq_ok htitled]
    rfl
  unfold Contents.ofDocument Contents.check
  rw [hcatalogues, hdoctypes, document, foreignKeys_fieldsOf]
  rfl

/-! ## What is loaded -/

theorem CataloguePlan.rawTitle_entry (w : Style) (c : CataloguePlan) :
    rawTitle (c.entry w).fields = .text c.title := by
  simp [rawTitle, entry, get?_freezeEntries, slots, freeze]

theorem CataloguePlan.thaw_entry {w : Style} (hw : w.spelling.Faithful) (c : CataloguePlan) :
    (Value.map (c.entry w).fields).thaw = .map (fieldsOf (c.slots w)) :=
  thaw_freezeEntries (c.loose_slots hw)

/-- **A catalogue that was loaded in two faithful styles resolves alike**, and fails alike. -/
theorem CataloguePlan.ofEntry_entry {w w' : Style} (hw : w.spelling.Faithful)
    (hw' : w'.spelling.Faithful) {c : CataloguePlan} (h : c.Renderable) :
    Endpoint.ofEntry (c.entry w).fields = Endpoint.ofEntry (c.entry w').fields := by
  unfold Endpoint.ofEntry
  rw [c.rawTitle_entry w, c.rawTitle_entry w', c.thaw_entry hw, c.thaw_entry hw',
    check_slots_eq hw hw' h]

/-- A catalogue with tags and titles resolves as it was meant. -/
theorem CataloguePlan.ofEntry_tagged {w : Style} (hw : w.spelling.Faithful) {c : CataloguePlan}
    (h : c.Renderable) (ht : c.Tagged) :
    Endpoint.ofEntry (c.entry w).fields =
      (CatalogueEntry.resolve ⟨c.title, c.connection, c.rules, c.specialMappings⟩).mapError
        (·.aboutCatalogue (.text c.title)) := by
  unfold Endpoint.ofEntry
  rw [c.rawTitle_entry w, c.thaw_entry hw, check_tagged hw h ht]

/-- The special mappings of a loaded catalogue are those that were written. -/
theorem CataloguePlan.specials_entry (w : Style) (c : CataloguePlan) :
    ((get? (c.entry w).fields "specialmapping").getD .null).thaw.asList =
      .list (c.specialMappings.map SpecialMappingEntry.form) := by
  have hget : get? (c.entry w).fields "specialmapping" =
      (listSlot w.bareLists (c.specialMappings.map SpecialMappingEntry.form)).map freeze := by
    simp [entry, get?_freezeEntries, slots]
  have hloose : Loose (.list (c.specialMappings.map SpecialMappingEntry.form)) := by
    apply loose_list
    rw [List.forall_mem_map]
    exact fun s _ => s.loose_form
  rw [hget]
  -- Left out, the special mappings are null, which stands for the empty list.
  rcases listSlot_cases w.bareLists (c.specialMappings.map SpecialMappingEntry.form) with
    ⟨hs, hnil⟩ | hs
  · rw [hs, hnil]
    rfl
  · rw [hs, Option.map_some, Option.getD_some, hloose]
    rfl

/-- **The special mappings of a catalogue that was loaded in two styles are read alike.** -/
theorem CataloguePlan.specialMappingsOf_entry (w w' : Style) (c : CataloguePlan) :
    specialMappingsOf (c.entry w).fields = specialMappingsOf (c.entry w').fields := by
  unfold specialMappingsOf
  rw [c.rawTitle_entry w, c.rawTitle_entry w', c.specials_entry w, c.specials_entry w']

/-- **A document type that was loaded in a faithful style resolves as it was meant.** -/
theorem Schema.DoctypeEntry.ofEntry_entry {w : Style} (hw : w.spelling.Faithful) (d : DoctypeEntry) :
    DocumentType.ofEntry (d.entry w).fields = .ok d.resolve := by
  have hthaw : (Value.map (d.entry w).fields).thaw = .map (fieldsOf (d.slots w)) :=
    thaw_freezeEntries (d.loose_slots hw)
  unfold DocumentType.ofEntry
  rw [hthaw, d.check_slots hw]

end LibraryCatalogue
