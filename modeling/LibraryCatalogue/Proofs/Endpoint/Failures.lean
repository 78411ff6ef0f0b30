import LibraryCatalogue.Endpoint
import LibraryCatalogue.Proofs.Schema.Unwritable

/-!
# Why an entry does not resolve

An entry of a catalogue that does not resolve is malformed, and says so with a parsing error that names
the catalogue; but for two things.  A pattern may ask for more than any pattern can have, a number of
repetitions say, and then the reader of patterns gives up in its own way, which nobody turns into an
error; and an integer may stand for a text that is too long to be written, which is not turned into an
error either.

* `Pattern.Excessive`, `Endpoint.Excessive` — patterns of that sort, and entries that come to one
  before they come to a fault;
* `resolve_error` — whatever else keeps conditions, rules and entries from resolving is a parsing
  error;
* `resolve_eq_pattern_iff` — and they give up exactly at excessive patterns;
* `Endpoint.GivesUp` — entries that are given up, for either reason;
* `Endpoint.ofEntry_cases`, `Endpoint.ofEntry_givesUp_iff` — the same for a whole entry;
* `DocumentType.GivesUp`, `DocumentType.ofEntry_error` — and for document types.
-/

namespace LibraryCatalogue

open Results

/-- A parsing error. -/
def Failure.Parsing (f : Failure) : Prop :=
  ∃ e, f = .error e ∧ e.kind.isA .parse = true

/-- A pattern has no fault, but asks for more than a pattern can have. -/
def Pattern.Excessive (pattern : String) (r : Pattern.Refusal) : Prop :=
  compile pattern = .error r ∧ ∀ fault, r ≠ .malformed fault

namespace Schema

/-- A condition whose mode is known asks for too much. -/
def ConditionEntry.Excessive (e : ConditionEntry) (r : Pattern.Refusal) : Prop :=
  (∃ mode, ConditionMode.modes.read e.mode = .ok mode) ∧ Pattern.Excessive (restoreSpaces e.value) r

/-- A rule whose mode is known has a condition that asks for too much, and those before it resolve. -/
def RuleEntry.Excessive (e : RuleEntry) (r : Pattern.Refusal) : Prop :=
  (∃ mode, ActionMode.modes.read e.mode = .ok mode) ∧
    ∃ before c after, e.conditions = before ++ c :: after ∧
      (∀ x ∈ before, ∃ y, x.resolve = .ok y) ∧ c.Excessive r

/-- A catalogue has a rule that asks for too much, and those before it resolve. -/
def CatalogueEntry.Excessive (e : CatalogueEntry) (r : Pattern.Refusal) : Prop :=
  ∃ before rule after, e.rules = before ++ rule :: after ∧
    (∀ x ∈ before, ∃ y, x.resolve = .ok y) ∧ rule.Excessive r

end Schema

/-- An entry passes its schema, and then asks for too much. -/
def Endpoint.Excessive (fields : Entries) (r : Pattern.Refusal) : Prop :=
  ∃ e, Schema.CatalogueEntry.check (Value.map fields).thaw = .ok e ∧ e.Excessive r

/-! ## Modes -/

theorem Modes.kind_of_read {μ : Type} {k : Modes μ} {written : Option String} {r : Reason}
    (h : k.read written = .error r) : r.kind = .unknownMode := by
  unfold read at h
  split at h
  · cases h
  · split at h
    · cases h
    · cases h
      rfl

theorem Failure.parsing_of_mode {r : Reason} (h : r.kind = .unknownMode) :
    (Failure.error (Error.ofReason r none)).Parsing :=
  ⟨_, rfl, by rw [Error.kind, Error.ofReason, h]; rfl⟩

/-! ## Conditions, rules and entries -/

namespace Schema

theorem ConditionEntry.resolve_error {e : ConditionEntry} {f : Failure}
    (h : e.resolve = .error f) : f.Parsing ∨ ∃ r, f = .pattern r := by
  unfold ConditionEntry.resolve at h
  split at h
  · rename_i reason hmode
    cases h
    exact Or.inl (Failure.parsing_of_mode (Modes.kind_of_read hmode))
  · split at h
    · cases h
    · cases h
      exact Or.inl ⟨_, rfl, rfl⟩
    · cases h
      exact Or.inr ⟨_, rfl⟩

theorem RuleEntry.resolve_error {e : RuleEntry} {f : Failure} (h : e.resolve = .error f) :
    f.Parsing ∨ ∃ r, f = .pattern r := by
  unfold RuleEntry.resolve at h
  split at h
  · rename_i reason hmode
    cases h
    exact Or.inl (Failure.parsing_of_mode (Modes.kind_of_read hmode))
  · rcases bind_eq_error_iff.1 h with hc | ⟨conditions, _, hr⟩
    · obtain ⟨c, _, hc⟩ := exists_error_of_mapM hc
      exact c.resolve_error hc
    · cases hr

theorem CatalogueEntry.resolve_error {e : CatalogueEntry} {f : Failure}
    (h : e.resolve = .error f) : f.Parsing ∨ ∃ r, f = .pattern r := by
  unfold CatalogueEntry.resolve at h
  rcases bind_eq_error_iff.1 h with hr | ⟨actions, _, hr⟩
  · obtain ⟨r, _, hr⟩ := exists_error_of_mapM hr
    exact r.resolve_error hr
  · cases hr

theorem ConditionEntry.resolve_eq_pattern_iff {e : ConditionEntry} {r : Pattern.Refusal} :
    e.resolve = .error (.pattern r) ↔ e.Excessive r := by
  unfold ConditionEntry.resolve ConditionEntry.Excessive Pattern.Excessive
  cases ConditionMode.modes.read e.mode with
  | error reason => simp
  | ok mode =>
    cases Pattern.compile (restoreSpaces e.value) with
    | ok p => simp
    | error refusal =>
      cases refusal with
      | malformed fault =>
        constructor
        · intro h
          cases h
        · rintro ⟨_, h, hr⟩
          cases h
          exact absurd rfl (hr fault)
      | _ =>
        constructor
        · intro h
          cases h
          exact ⟨⟨mode, rfl⟩, rfl, fun _ hr => by cases hr⟩
        · rintro ⟨_, h, _⟩
          cases h
          rfl

theorem RuleEntry.resolve_eq_pattern_iff {e : RuleEntry} {r : Pattern.Refusal} :
    e.resolve = .error (.pattern r) ↔ e.Excessive r := by
  unfold RuleEntry.resolve RuleEntry.Excessive
  cases ActionMode.modes.read e.mode with
  | error reason => simp
  | ok mode =>
    have hconditions : e.conditions.mapM ConditionEntry.resolve = .error (.pattern r) ↔
        ∃ before c after, e.conditions = before ++ c :: after ∧
          (∀ x ∈ before, ∃ y, x.resolve = .ok y) ∧ c.Excessive r := by
      simp only [mapM_eq_error_iff, ConditionEntry.resolve_eq_pattern_iff]
    dsimp only
    rw [bind_eq_error_iff, hconditions]
    constructor
    · rintro (h | ⟨_, _, h⟩)
      · exact ⟨⟨mode, rfl⟩, h⟩
      · cases h
    · rintro ⟨_, h⟩
      exact Or.inl h

theorem CatalogueEntry.resolve_eq_pattern_iff {e : CatalogueEntry} {r : Pattern.Refusal} :
    e.resolve = .error (.pattern r) ↔ e.Excessive r := by
  unfold CatalogueEntry.resolve CatalogueEntry.Excessive
  simp only [bind_eq_error_iff, mapM_eq_error_iff, RuleEntry.resolve_eq_pattern_iff]
  constructor
  · rintro (h | ⟨_, _, h⟩)
    · exact h
    · cases h
  · exact Or.inl

end Schema

/-! ## Whole entries -/

theorem Failure.Parsing.aboutCatalogue {f : Failure} (h : f.Parsing) (title : Value) :
    ∃ e, f.aboutCatalogue title = .error e ∧ e.kind.isA .parse = true ∧
      e.context.catalogue = title := by
  obtain ⟨e, rfl, hk⟩ := h
  exact ⟨e.withCatalogue title, by simp [Failure.aboutCatalogue, hk], hk, rfl⟩

section Misfits

variable {α : Type} {schema : String} {title : Value} {report : Schema.Invalid → Error}
  {c : Schema.Checked α}

/-- What does not pass its schema has faults that are reported, or nothing is reported. -/
theorem Failure.reported_or_unwritable {f : Failure}
    (h : c.mapError (misfit schema title report) = .error f) :
    (∃ faults, f = .error (report ⟨schema, faults⟩)) ∨ f = .unwritable := by
  obtain ⟨finding, _, rfl⟩ := mapError_eq_error_iff.1 h
  cases finding with
  | unwritable => exact Or.inr rfl
  | faults faults =>
    unfold misfit ofFinding
    dsimp only
    split
    · exact Or.inl ⟨faults, rfl⟩
    · exact Or.inr rfl

/-- Nothing is reported when the check was given up, or when the title cannot be written. -/
theorem Failure.unreported_iff :
    c.mapError (misfit schema title report) = .error .unwritable ↔
      c = .error .unwritable ∨
        ∃ faults, c = .error (.faults faults) ∧ title.isWritable = false := by
  rw [mapError_eq_error_iff]
  constructor
  · rintro ⟨f, hc, hf⟩
    cases f with
    | unwritable => exact Or.inl hc
    | faults faults =>
      refine Or.inr ⟨faults, hc, ?_⟩
      cases htitle : title.isWritable with
      | false => rfl
      | true => simp [misfit, ofFinding, htitle] at hf
  · rintro (hc | ⟨faults, hc, htitle⟩)
    · exact ⟨_, hc, rfl⟩
    · exact ⟨_, hc, by simp [misfit, ofFinding, htitle]⟩

end Misfits

/-- An entry is given up: at a pattern that asks for too much, at an integer that is too long for the
text that it stands for, or because there is no saying which entry has the faults that were found. -/
inductive Endpoint.GivesUp (fields : Entries) : Failure → Prop where
  | pattern {r : Pattern.Refusal} : Excessive fields r → GivesUp fields (.pattern r)
  | number : Schema.CatalogueEntry.Unwritable fields → GivesUp fields .unwritable
  | title {faults : List Schema.Fault} :
      Schema.CatalogueEntry.check (.map fields) = .error (.faults faults) →
      (rawTitle fields).isWritable = false → GivesUp fields .unwritable

theorem Endpoint.GivesUp.kind {fields : Entries} {f : Failure} (h : GivesUp fields f) :
    f.kind.isA .parse = false := by
  cases h with
  | @pattern r _ => cases r <;> rfl
  | _ => rfl

/-- What is found in the fields of an entry is found before and after thawing. -/
theorem Schema.CatalogueEntry.check_thaw (fields : Entries) :
    check (Value.map fields).thaw = check (.map fields) :=
  blind_check Value.repacking_thaw (.map fields)

/-- An entry is checked, and what passes resolves. -/
theorem Endpoint.ofEntry_eq (fields : Entries) :
    ofEntry fields = (do
      let e ← (Schema.CatalogueEntry.check (.map fields)).mapError (misfit (rawTitle fields))
      e.resolve.mapError (·.aboutCatalogue (rawTitle fields))) := by
  unfold ofEntry
  rw [Schema.CatalogueEntry.check_thaw]
  dsimp only
  cases Schema.CatalogueEntry.check (.map fields) <;> rfl

/-- Nothing is reported of an entry exactly when it is given up before it resolves. -/
theorem Endpoint.unreported_iff {fields : Entries} :
    (Schema.CatalogueEntry.check (.map fields)).mapError (misfit (rawTitle fields)) =
        .error .unwritable ↔ GivesUp fields .unwritable := by
  rw [misfit, Failure.unreported_iff, Schema.CatalogueEntry.check_eq_unwritable_iff]
  constructor
  · rintro (⟨_, heq, hnumber⟩ | ⟨faults, hcheck, htitle⟩)
    · cases heq
      exact .number hnumber
    · exact .title hcheck htitle
  · intro h
    cases h with
    | number hnumber => exact Or.inl ⟨_, rfl, hnumber⟩
    | title hcheck htitle => exact Or.inr ⟨_, hcheck, htitle⟩

/-- An entry that does not pass its schema is a parsing error that names the catalogue, or is given
up. -/
theorem Endpoint.ofEntry_of_unfit {fields : Entries} {f : Schema.Finding}
    (h : Schema.CatalogueEntry.check (.map fields) = .error f) :
    (∃ x : Error, Endpoint.ofEntry fields = .error (.error x) ∧ x.kind = .parse ∧
        x.context.catalogue = rawTitle fields) ∨
      Endpoint.ofEntry fields = .error .unwritable ∧ GivesUp fields .unwritable := by
  have hmisfit : (Schema.CatalogueEntry.check (.map fields)).mapError (misfit (rawTitle fields)) =
      .error (misfit (rawTitle fields) f) := by
    rw [h]
    rfl
  have hentry : Endpoint.ofEntry fields = .error (misfit (rawTitle fields) f) := by
    rw [ofEntry_eq, hmisfit]
    rfl
  rcases Failure.reported_or_unwritable hmisfit with ⟨faults, hreport⟩ | hnone
  · exact Or.inl ⟨_, hentry.trans (congrArg Except.error hreport), rfl, rfl⟩
  · rw [hnone] at hmisfit hentry
    exact Or.inr ⟨hentry, unreported_iff.1 hmisfit⟩

/-- **An entry resolves, or fails with a parsing error that names the catalogue by the title written in
the entry, or is given up.** -/
theorem Endpoint.ofEntry_cases (fields : Entries) :
    (∃ e, Endpoint.ofEntry fields = .ok e) ∨
      (∃ e, Endpoint.ofEntry fields = .error (.error e) ∧ e.kind.isA .parse = true ∧
        e.context.catalogue = rawTitle fields) ∨
      ∃ f, Endpoint.ofEntry fields = .error f ∧ GivesUp fields f := by
  cases hcheck : Schema.CatalogueEntry.check (.map fields) with
  | error f =>
    rcases ofEntry_of_unfit hcheck with ⟨x, hx, hk, hc⟩ | ⟨hnone, hgives⟩
    · exact Or.inr (Or.inl ⟨x, hx, by rw [hk]; rfl, hc⟩)
    · exact Or.inr (Or.inr ⟨_, hnone, hgives⟩)
  | ok entry =>
    have hentry : Endpoint.ofEntry fields =
        entry.resolve.mapError (·.aboutCatalogue (rawTitle fields)) := by
      rw [ofEntry_eq, hcheck]
      rfl
    rw [hentry]
    cases hr : entry.resolve with
    | ok e => exact Or.inl ⟨e, rfl⟩
    | error f =>
      rcases entry.resolve_error hr with hf | ⟨r, rfl⟩
      · obtain ⟨e, he, hk, hc⟩ := hf.aboutCatalogue (rawTitle fields)
        exact Or.inr (Or.inl ⟨e, congrArg Except.error he, hk, hc⟩)
      · refine Or.inr (Or.inr ⟨_, rfl, .pattern ⟨entry, ?_, ?_⟩⟩)
        · rw [Schema.CatalogueEntry.check_thaw]
          exact hcheck
        · exact Schema.CatalogueEntry.resolve_eq_pattern_iff.1 hr

theorem Endpoint.GivesUp.ofEntry {fields : Entries} {f : Failure} (h : GivesUp fields f) :
    Endpoint.ofEntry fields = .error f := by
  rw [ofEntry_eq, bind_eq_error_iff]
  have hgives := h
  cases h with
  | pattern hexcess =>
    obtain ⟨e, hcheck, he⟩ := hexcess
    rw [Schema.CatalogueEntry.check_thaw] at hcheck
    refine Or.inr ⟨e, mapError_eq_ok_iff.2 hcheck, ?_⟩
    rw [Schema.CatalogueEntry.resolve_eq_pattern_iff.2 he]
    rfl
  | number _ | title _ _ => exact Or.inl (unreported_iff.2 hgives)

/-- **An entry fails with something else than a parsing error exactly when it is given up.** -/
theorem Endpoint.ofEntry_givesUp_iff {fields : Entries} {f : Failure} :
    (Endpoint.ofEntry fields = .error f ∧ f.kind.isA .parse = false) ↔ GivesUp fields f := by
  constructor
  · rintro ⟨h, hk⟩
    rcases Endpoint.ofEntry_cases fields with ⟨e, he⟩ | ⟨e, he, hparse, _⟩ | ⟨g, hg, hgives⟩
    · rw [h] at he
      cases he
    · rw [h] at he
      cases he
      exact absurd hparse (by simpa [Failure.kind] using hk)
    · rw [h] at hg
      cases hg
      exact hgives
  · intro h
    exact ⟨h.ofEntry, h.kind⟩

/-- **A parsing failure of an entry is an error that names the catalogue.** -/
theorem Endpoint.ofEntry_error {fields : Entries} {f : Failure}
    (h : Endpoint.ofEntry fields = .error f) (hk : f.kind.isA .parse = true) :
    ∃ e, f = .error e ∧ e.context.catalogue = rawTitle fields := by
  rcases Endpoint.ofEntry_cases fields with ⟨e, he⟩ | ⟨e, he, _, hc⟩ | ⟨g, hg, hgives⟩
  · rw [h] at he
    cases he
  · rw [h] at he
    cases he
    exact ⟨e, rfl, hc⟩
  · rw [h] at hg
    cases hg
    rw [hgives.kind] at hk
    cases hk

/-! ## Document types -/

/-- A document type is given up: at an integer that is too long for the text that it stands for, or
because there is no saying which one has the faults that were found. -/
inductive DocumentType.GivesUp (fields : Entries) : Prop where
  | number : Schema.DoctypeEntry.Unwritable fields → GivesUp fields
  | title {faults : List Schema.Fault} :
      Schema.DoctypeEntry.check (.map fields) = .error (.faults faults) →
      (rawTitle fields).isWritable = false → GivesUp fields

/-- A document type is checked, and what passes resolves. -/
theorem DocumentType.ofEntry_eq (fields : Entries) :
    ofEntry fields =
      ((Schema.DoctypeEntry.check (.map fields)).mapError (misfit (rawTitle fields))).map
        (·.resolve) := by
  have hthaw : Schema.DoctypeEntry.check (Value.map fields).thaw =
      Schema.DoctypeEntry.check (.map fields) :=
    Schema.DoctypeEntry.blind_check Value.repacking_thaw (.map fields)
  unfold ofEntry
  rw [hthaw]
  cases Schema.DoctypeEntry.check (.map fields) <;> rfl

/-- **A document type is given up exactly in these cases.** -/
theorem DocumentType.ofEntry_eq_unwritable_iff {fields : Entries} :
    DocumentType.ofEntry fields = .error .unwritable ↔ GivesUp fields := by
  rw [ofEntry_eq, map_eq_error_iff, misfit, Failure.unreported_iff,
    Schema.DoctypeEntry.check_eq_unwritable_iff]
  constructor
  · rintro (⟨_, heq, hnumber⟩ | ⟨faults, hcheck, htitle⟩)
    · cases heq
      exact .number hnumber
    · exact .title hcheck htitle
  · intro h
    cases h with
    | number hnumber => exact Or.inl ⟨_, rfl, hnumber⟩
    | title hcheck htitle => exact Or.inr ⟨_, hcheck, htitle⟩

/-- **A document type that does not resolve is a parsing error that names it, or is given up.** -/
theorem DocumentType.ofEntry_error {fields : Entries} {f : Failure}
    (h : DocumentType.ofEntry fields = .error f) :
    (∃ e, f = .error e ∧ e.kind = .parse ∧ e.context.doctype = rawTitle fields) ∨
      f = .unwritable ∧ GivesUp fields := by
  have hmisfit := h
  rw [ofEntry_eq, map_eq_error_iff] at hmisfit
  rcases Failure.reported_or_unwritable hmisfit with ⟨faults, rfl⟩ | rfl
  · exact Or.inl ⟨_, rfl, rfl, rfl⟩
  · exact Or.inr ⟨rfl, ofEntry_eq_unwritable_iff.1 h⟩

end LibraryCatalogue
