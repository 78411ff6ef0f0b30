import LibraryCatalogue.Proofs.Endpoint.Failures
import LibraryCatalogue.Proofs.Schema.Written

/-!
# Special mappings, read with an entry and without it

The special mappings of a catalogue are read in two ways: as one field among others, by the schema of
the whole entry, and alone, by going through whatever is under their name item by item.  The first way
looks at the value before it looks at the items; the second does not.

* `SpecialMapping.GivesUp`, `SpecialMapping.ofItem_error` — one item, read alone;
* `writtenSpecials` — what the schema of the whole entry reads of this field;
  `CatalogueEntry.check_specials` and `CatalogueEntry.check_error_of_specials` say that it does;
* `specialMappingsOf_of_row` — a row is read item by item in both ways;
* `Value.Lone`, `Value.Blank` — values that the schema rejects and that hold nothing to go through:
  scalars, and texts and byte strings of length zero;
* `specialMappingsOf_of_written`, `specialMappingsOf_of_rejected` — what the schema accepts is read alike
  without it, and what it rejects is an error but for the blank values;
* `SpecialsGivenUp`, `specialMappingsOf_error` — all that reading them alone can fail with;
* `Endpoint.specials_of_ofEntry`, `Endpoint.ofEntry_error_of_specials` — so it is for whole endpoints.
-/

namespace LibraryCatalogue

open Schema Value Results

/-! ## One item -/

/-- An item is given up: at an integer that is too long for the text that it stands for, or because
there is no saying in which catalogue the faults were found. -/
inductive SpecialMapping.GivesUp (title v : Value) : Prop where
  | number {entries : Entries} : v = .map entries → SpecialMappingEntry.Unwritable entries →
      GivesUp title v
  | title {faults : List Fault} : SpecialMappingEntry.check v = .error (.faults faults) →
      title.isWritable = false → GivesUp title v

namespace SpecialMapping

/-- An item is checked, and what passes resolves. -/
theorem ofItem_eq (title v : Value) :
    ofItem title v =
      ((SpecialMappingEntry.check v).mapError (misfit title)).map (·.resolve) := by
  unfold ofItem
  cases SpecialMappingEntry.check v <;> rfl

theorem ofItem_eq_ok_iff {title v : Value} {s : SpecialMapping} :
    ofItem title v = .ok s ↔ ∃ e, SpecialMappingEntry.check v = .ok e ∧ e.resolve = s := by
  simp only [ofItem_eq, map_eq_ok_iff, mapError_eq_ok_iff]

/-- **An item is given up exactly in these cases.** -/
theorem ofItem_eq_unwritable_iff {title v : Value} :
    ofItem title v = .error .unwritable ↔ GivesUp title v := by
  rw [ofItem_eq, map_eq_error_iff, misfit, Failure.unreported_iff,
    SpecialMappingEntry.check_eq_unwritable_iff]
  constructor
  · rintro (⟨entries, hv, hnumber⟩ | ⟨faults, hcheck, htitle⟩)
    · exact .number hv hnumber
    · exact .title hcheck htitle
  · intro h
    cases h with
    | number hv hnumber => exact Or.inl ⟨_, hv, hnumber⟩
    | title hcheck htitle => exact Or.inr ⟨_, hcheck, htitle⟩

/-- An item that is no special mapping is a parsing error that names the catalogue, or is given up. -/
theorem ofItem_error {title v : Value} {f : Failure} (h : ofItem title v = .error f) :
    (∃ x : Error, f = .error x ∧ x.kind = .parse ∧ x.context.catalogue = title) ∨
      f = .unwritable := by
  rw [ofItem_eq, map_eq_error_iff] at h
  rcases Failure.reported_or_unwritable h with ⟨faults, rfl⟩ | rfl
  · exact Or.inl ⟨_, rfl, rfl, rfl⟩
  · exact Or.inr rfl

/-- What is no mapping is no special mapping. -/
theorem ofItem_of_not_map (title : Value) {v : Value} (h : ∀ entries, v ≠ .map entries) :
    ∃ f, ofItem title v = .error f := by
  cases hs : ofItem title v with
  | error f => exact ⟨f, rfl⟩
  | ok s =>
    obtain ⟨e, he, _⟩ := ofItem_eq_ok_iff.1 hs
    obtain ⟨entries, rfl, _⟩ := SpecialMappingEntry.check_eq_ok_iff.1 he
    exact absurd rfl (h entries)

end SpecialMapping

/-! ## A row of items -/

theorem mapM_ofItem {f : Value → Value} (hf : Repacking f) (title : Value) (vs : List Value) :
    (vs.map f).mapM (SpecialMapping.ofItem title) = vs.mapM (SpecialMapping.ofItem title) := by
  have hblind : SpecialMapping.ofItem title ∘ f = SpecialMapping.ofItem title := by
    funext v
    simp only [Function.comp_apply, SpecialMapping.ofItem, SpecialMappingEntry.blind_check hf v]
  rw [List.mapM_map, hblind]

/-- The special mappings of an entry are those of the row, one by one. -/
theorem specialMappingsOf_of_row {fields : Entries} {vs : List Value}
    (h : rowAt? fields "specialmapping" = some vs) :
    specialMappingsOf fields = vs.mapM (SpecialMapping.ofItem (rawTitle fields)) := by
  have hwritten :
      (((get? fields "specialmapping").getD .null).thaw.asList).itemsOf? = some vs ∨
        (((get? fields "specialmapping").getD .null).thaw.asList).itemsOf? =
          some (vs.map thaw) := by
    unfold rowAt? at h
    cases hget : get? fields "specialmapping" with
    | none =>
      rw [hget] at h
      cases h
      exact Or.inl rfl
    | some v =>
      rw [hget] at h
      exact (Repacked.row? repacking_thaw h).imp itemsOf?_of_row? itemsOf?_of_row?
  unfold specialMappingsOf
  rcases hwritten with hsame | hthawed
  · simp only [hsame]
  · simp only [hthawed]
    exact mapM_ofItem repacking_thaw _ vs

/-- A row of items is read alone exactly when the schema accepts each of them, with the same result. -/
theorem mapM_ofItem_eq_ok_iff {title : Value} {vs : List Value} {ss : List SpecialMapping} :
    vs.mapM (SpecialMapping.ofItem title) = .ok ss ↔
      ∃ es, items SpecialMappingEntry.check 0 vs = .ok es ∧
        ss = es.map SpecialMappingEntry.resolve := by
  simp only [mapM_eq_ok_iff, items_eq_ok_iff, SpecialMapping.ofItem_eq_ok_iff]
  constructor
  · intro h
    induction h with
    | nil => exact ⟨[], .nil, rfl⟩
    | cons hv _ ih =>
      obtain ⟨e, he, rfl⟩ := hv
      obtain ⟨es, hes, rfl⟩ := ih
      exact ⟨e :: es, .cons he hes, rfl⟩
  · rintro ⟨es, h, rfl⟩
    rw [List.forall₂_map_right_iff]
    exact h.imp fun v e he => ⟨e, he, rfl⟩

/-! ## What the schema of the whole entry reads -/

/-- The special mappings as the schema of a catalogue reads them. -/
def writtenSpecials (fields : Entries) : Checked (List SpecialMappingEntry) :=
  optional fields "specialmapping" [] (entryList SpecialMappingEntry.check)

theorem writtenSpecials_eq (fields : Entries) :
    writtenSpecials fields =
      Checked.under (.field "specialmapping") (match rowAt? fields "specialmapping" with
        | some vs => items SpecialMappingEntry.check 0 vs
        | none => .fail .notList) :=
  optional_entryList fields "specialmapping" SpecialMappingEntry.check

/-- **An entry that passes the schema has the special mappings that the schema reads.** -/
theorem Schema.CatalogueEntry.check_specials {fields : Entries} {e : CatalogueEntry}
    (h : CatalogueEntry.check (Value.map fields).thaw = .ok e) :
    writtenSpecials fields = .ok e.specialMappings :=
  (optional_entryList_iff SpecialMappingEntry.check_eq_ok_iff).2
    (CatalogueEntry.check_thaw_eq_ok_iff.1 h).specialMappings

/-- **An entry whose special mappings the schema rejects does not pass it**, and what is found in them
is among its findings. -/
theorem Schema.CatalogueEntry.check_error_of_specials {fields : Entries} {f : Finding}
    (h : writtenSpecials fields = .error f) :
    ∃ before : Finding,
      CatalogueEntry.check (Value.map fields).thaw = .error (before.both f) := by
  have hboth {α β : Type} (c : Checked α) {d : Checked β} {g : Finding}
      (hd : ∃ before : Finding, d = .error (before.both g)) :
      ∃ before : Finding, c.both d = .error (before.both g) := by
    obtain ⟨before, rfl⟩ := hd
    cases c with
    | ok a => exact ⟨before, rfl⟩
    | error k => exact ⟨k.both before, by rw [Finding.both_assoc]; rfl⟩
  have hspecials : ∃ before : Finding, writtenSpecials fields = .error (before.both f) :=
    ⟨.faults [], by rw [h, Finding.faults_nil_both]⟩
  rw [CatalogueEntry.check_thaw]
  -- The special mappings are the last of four fields: what is found in the others comes before.
  obtain ⟨before, hbefore⟩ := hboth (field fields "title" numericText)
    (hboth (field fields "config" ConnectionEntry.check)
      (hboth (optional fields "beautify" [] checkRules) hspecials))
  unfold writtenSpecials at hbefore
  refine ⟨before, ?_⟩
  simp only [CatalogueEntry.check, mapping, bind, Except.bind, hbefore]

/-! ## What is no row -/

namespace Value

/-- A scalar that is neither a text nor a byte string: nothing in it can be gone through. -/
inductive Lone : Value → Prop where
  | bool (b : Bool) : Lone (.bool b)
  | int (i : Int) : Lone (.int i)
  | float (x : Binary64) : Lone (.float x)
  | date (d : Date) : Lone (.date d)
  | moment (t : Moment) : Lone (.moment t)

/-- A text or a byte string of length zero: there is nothing in it to go through. -/
inductive Blank : Value → Prop where
  | text : Blank (.text "")
  | bytes : Blank (.bytes [])

theorem Lone.row? {v : Value} (h : v.Lone) : v.row? = none := by
  cases h <;> rfl

theorem Lone.thaw_asList {v : Value} (h : v.Lone) : v.thaw.asList = v := by
  cases h <;> rfl

theorem Lone.itemsOf? {v : Value} (h : v.Lone) : v.itemsOf? = none := by
  cases h <;> rfl

theorem Blank.row? {v : Value} (h : v.Blank) : v.row? = none := by
  cases h <;> rfl

theorem Blank.thaw_asList_itemsOf? {v : Value} (h : v.Blank) :
    v.thaw.asList.itemsOf? = some [] := by
  cases h <;> rfl

/-- **What is no row** has nothing to be gone through, or has nothing in it, or is gone through by
items that are no mappings. -/
theorem lone_or_blank_or_items {v : Value} (h : v.row? = none) :
    v.Lone ∨ v.Blank ∨ ∃ w ws, v.thaw.asList.itemsOf? = some (w :: ws) ∧
      ∀ entries, w ≠ .map entries := by
  cases v with
  | bool b => exact Or.inl (.bool b)
  | int i => exact Or.inl (.int i)
  | float x => exact Or.inl (.float x)
  | date d => exact Or.inl (.date d)
  | moment t => exact Or.inl (.moment t)
  | text s =>
    refine Or.inr ?_
    cases hs : s.toList with
    | nil =>
      obtain rfl : s = "" := String.toList_eq_nil_iff.1 hs
      exact Or.inl .text
    | cons c cs =>
      refine Or.inr ⟨.text (String.singleton c), cs.map fun c => .text (String.singleton c), ?_, ?_⟩
      · simp only [thaw, asList, Value.itemsOf?, hs, List.map_cons]
      · intro entries h
        cases h
  | bytes bs =>
    refine Or.inr ?_
    cases bs with
    | nil => exact Or.inl .bytes
    | cons b bs =>
      refine Or.inr ⟨.int b.toNat, bs.map fun b => .int b.toNat, rfl, ?_⟩
      intro entries h
      cases h
  | _ => cases h

end Value

/-- What stands under the name of the special mappings and is no row is rejected by the schema. -/
theorem writtenSpecials_of_not_row {fields : Entries} {v : Value}
    (hget : get? fields "specialmapping" = some v) (hrow : v.row? = none) :
    writtenSpecials fields = .error (.faults [⟨[.field "specialmapping"], .notList⟩]) := by
  rw [writtenSpecials_eq, rowAt?_eq_none_iff.2 ⟨v, hget, hrow⟩]
  rfl

/-! ## The two ways compared -/

section Ways

variable {fields : Entries}

/-- **What the schema accepts is read alike without it.** -/
theorem specialMappingsOf_of_written {es : List SpecialMappingEntry}
    (h : writtenSpecials fields = .ok es) :
    specialMappingsOf fields = .ok (es.map SpecialMappingEntry.resolve) := by
  rw [writtenSpecials_eq, under_eq_ok_iff] at h
  cases hrow : rowAt? fields "specialmapping" with
  | none =>
    rw [hrow] at h
    cases h
  | some vs =>
    rw [hrow] at h
    rw [specialMappingsOf_of_row hrow]
    exact mapM_ofItem_eq_ok_iff.2 ⟨es, h, rfl⟩

theorem specialMappingsOf_of_lone {v : Value} (hget : get? fields "specialmapping" = some v)
    (hlone : v.Lone) : specialMappingsOf fields = .error (.notIterable v.kindName) := by
  simp only [specialMappingsOf, hget, Option.getD_some, hlone.thaw_asList, hlone.itemsOf?]

/-- The special mappings of an entry are given up: at the first item that is no special mapping. -/
inductive SpecialsGivenUp (fields : Entries) : Prop where
  | item {vs before after : List Value} {v : Value} :
      ((get? fields "specialmapping").getD .null).thaw.asList.itemsOf? = some vs →
      vs = before ++ v :: after →
      (∀ b ∈ before, ∃ s, SpecialMapping.ofItem (rawTitle fields) b = .ok s) →
      SpecialMapping.GivesUp (rawTitle fields) v → SpecialsGivenUp fields

/-- **Special mappings are given up exactly at such an item.** -/
theorem specialMappingsOf_eq_unwritable_iff :
    specialMappingsOf fields = .error .unwritable ↔ SpecialsGivenUp fields := by
  unfold specialMappingsOf
  dsimp only
  constructor
  · intro h
    split at h
    · cases h
    · rename_i vs hitems
      obtain ⟨before, v, after, hvs, hbefore, hv⟩ := mapM_eq_error_iff.1 h
      exact .item hitems hvs hbefore (SpecialMapping.ofItem_eq_unwritable_iff.1 hv)
  · rintro ⟨hitems, hvs, hbefore, hv⟩
    simp only [hitems]
    exact mapM_eq_error_iff.2
      ⟨_, _, _, hvs, hbefore, SpecialMapping.ofItem_eq_unwritable_iff.2 hv⟩

/-- **What the schema rejects is a parsing error that names the catalogue**, but that going through a
scalar fails in its own way, that going through a blank value ends at once, and that some items are
given up. -/
theorem specialMappingsOf_of_rejected {f : Finding} (h : writtenSpecials fields = .error f) :
    (∃ x : Error, specialMappingsOf fields = .error (.error x) ∧ x.kind = .parse ∧
        x.context.catalogue = rawTitle fields) ∨
      (∃ v, get? fields "specialmapping" = some v ∧ v.Lone ∧
        specialMappingsOf fields = .error (.notIterable v.kindName)) ∨
      (∃ v, get? fields "specialmapping" = some v ∧ v.Blank ∧ specialMappingsOf fields = .ok []) ∨
      SpecialsGivenUp fields := by
  have hfails {f : Failure} {v : Value} (hs : specialMappingsOf fields = .error f)
      (hv : SpecialMapping.ofItem (rawTitle fields) v = .error f) :
      (∃ x : Error, specialMappingsOf fields = .error (.error x) ∧ x.kind = .parse ∧
        x.context.catalogue = rawTitle fields) ∨ SpecialsGivenUp fields := by
    rcases SpecialMapping.ofItem_error hv with ⟨x, rfl, hkind, hnames⟩ | rfl
    · exact Or.inl ⟨x, hs, hkind, hnames⟩
    · exact Or.inr (specialMappingsOf_eq_unwritable_iff.1 hs)
  cases hrow : rowAt? fields "specialmapping" with
  | some vs =>
    have halone := specialMappingsOf_of_row hrow
    cases hs : vs.mapM (SpecialMapping.ofItem (rawTitle fields)) with
    | ok ss =>
      obtain ⟨es, hes, _⟩ := mapM_ofItem_eq_ok_iff.1 hs
      rw [writtenSpecials_eq, hrow] at h
      simp only [hes] at h
      cases h
    | error f =>
      rw [hs] at halone
      obtain ⟨v, _, hv⟩ := exists_error_of_mapM hs
      exact (hfails halone hv).imp_right fun h => Or.inr (Or.inr h)
  | none =>
    obtain ⟨v, hget, hv⟩ := rowAt?_eq_none_iff.1 hrow
    rcases Value.lone_or_blank_or_items hv with hlone | hblank | ⟨w, ws, hitems, hw⟩
    · exact Or.inr (Or.inl ⟨v, hget, hlone, specialMappingsOf_of_lone hget hlone⟩)
    · refine Or.inr (Or.inr (Or.inl ⟨v, hget, hblank, ?_⟩))
      simp only [specialMappingsOf, hget, Option.getD_some, hblank.thaw_asList_itemsOf?]
      rfl
    · obtain ⟨f, hf⟩ := SpecialMapping.ofItem_of_not_map (rawTitle fields) hw
      have halone : specialMappingsOf fields = .error f := by
        simp only [specialMappingsOf, hget, Option.getD_some, hitems, mapM_cons, hf]
        rfl
      exact (hfails halone hf).imp_right fun h => Or.inr (Or.inr h)

/-- Going through fails in its own way exactly at a scalar. -/
theorem specialMappingsOf_eq_notIterable_iff {kind : String} :
    specialMappingsOf fields = .error (.notIterable kind) ↔
      ∃ v, get? fields "specialmapping" = some v ∧ v.Lone ∧ v.kindName = kind := by
  constructor
  · intro h
    cases hw : writtenSpecials fields with
    | ok es =>
      rw [specialMappingsOf_of_written hw] at h
      cases h
    | error f =>
      rcases specialMappingsOf_of_rejected hw with
        ⟨x, hx, _⟩ | ⟨v, hget, hlone, hv⟩ | ⟨v, _, _, hv⟩ | hgives
      · rw [hx] at h
        cases h
      · rw [hv] at h
        cases h
        exact ⟨v, hget, hlone, rfl⟩
      · rw [hv] at h
        cases h
      · rw [specialMappingsOf_eq_unwritable_iff.2 hgives] at h
        cases h
  · rintro ⟨v, hget, hlone, rfl⟩
    exact specialMappingsOf_of_lone hget hlone

/-- **Special mappings that cannot be read are a parsing error that names the catalogue, or a scalar, or
given up.** -/
theorem specialMappingsOf_error {f : Failure} (h : specialMappingsOf fields = .error f) :
    (∃ e : Error, f = .error e ∧ e.kind = .parse ∧ e.context.catalogue = rawTitle fields) ∨
      (∃ v, get? fields "specialmapping" = some v ∧ v.Lone ∧ f = .notIterable v.kindName) ∨
      f = .unwritable ∧ SpecialsGivenUp fields := by
  cases hw : writtenSpecials fields with
  | ok es =>
    rw [specialMappingsOf_of_written hw] at h
    cases h
  | error finding =>
    rcases specialMappingsOf_of_rejected hw with
      ⟨x, hx, hkind, hnames⟩ | ⟨v, hget, hlone, hv⟩ | ⟨v, _, _, hv⟩ | hgives
    · rw [h] at hx
      cases hx
      exact Or.inl ⟨x, rfl, hkind, hnames⟩
    · rw [h] at hv
      cases hv
      exact Or.inr (Or.inl ⟨v, hget, hlone, rfl⟩)
    · rw [h] at hv
      cases hv
    · rw [specialMappingsOf_eq_unwritable_iff.2 hgives] at h
      cases h
      exact Or.inr (Or.inr ⟨rfl, hgives⟩)

/-- **The special mappings of an endpoint are those that are read without it.** -/
theorem Endpoint.specials_of_ofEntry {e : Endpoint} (h : Endpoint.ofEntry fields = .ok e) :
    specialMappingsOf fields = .ok e.specialMappings := by
  simp only [Endpoint.ofEntry] at h
  split at h
  · cases h
  · rename_i written hcheck
    rw [mapError_eq_ok_iff] at h
    obtain ⟨actions, _, hres⟩ := bind_eq_ok_iff.1 h
    cases hres
    exact specialMappingsOf_of_written (CatalogueEntry.check_specials hcheck)

/-- **An endpoint whose special mappings the schema rejects is a parsing error** that names the
catalogue, or is given up. -/
theorem Endpoint.ofEntry_error_of_rejected {f : Finding} (h : writtenSpecials fields = .error f) :
    (∃ x : Error, Endpoint.ofEntry fields = .error (.error x) ∧ x.kind = .parse ∧
        x.context.catalogue = rawTitle fields) ∨
      Endpoint.ofEntry fields = .error .unwritable ∧ Endpoint.GivesUp fields .unwritable := by
  obtain ⟨before, hcheck⟩ := CatalogueEntry.check_error_of_specials h
  rw [CatalogueEntry.check_thaw] at hcheck
  exact Endpoint.ofEntry_of_unfit hcheck

/-- **An endpoint whose special mappings cannot be read alone cannot be read either.** -/
theorem Endpoint.ofEntry_error_of_specials {f : Failure} (h : specialMappingsOf fields = .error f) :
    (∃ x : Error, Endpoint.ofEntry fields = .error (.error x) ∧ x.kind = .parse ∧
        x.context.catalogue = rawTitle fields) ∨
      Endpoint.ofEntry fields = .error .unwritable ∧ Endpoint.GivesUp fields .unwritable := by
  cases hw : writtenSpecials fields with
  | ok es =>
    rw [specialMappingsOf_of_written hw] at h
    cases h
  | error finding => exact Endpoint.ofEntry_error_of_rejected hw

end Ways

end LibraryCatalogue
