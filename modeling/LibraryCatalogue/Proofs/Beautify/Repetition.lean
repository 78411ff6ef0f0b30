import LibraryCatalogue.Proofs.Beautify.Reads

/-!
# Passes that may be repeated

Where no condition of some rules reads a field that one of the rules writes, the rules are decided by
the record as it came, and so are they a second time.  The writes of the second pass are those of the
first, and put nothing new into any field, not even where several rules write the same one.

* `NoFeedback` — no rule reads what a rule writes;
* `Fields.writeAll_writeAll` — a row of writes, made twice;
* `get?_of_unwritten` — a field that no rule writes keeps what it held;
* `decided_by_record`, `trace_again` — what is reported of the rules, and what they do again;
* `repetition_changes_nothing` — all of it together.
-/

namespace LibraryCatalogue

open Results

/-- No condition of a rule reads a field that a rule writes. -/
def NoFeedback (rules : List Action) : Prop :=
  ∀ a ∈ rules, ∀ c ∈ a.conditions, ∀ b ∈ rules, b.key ≠ c.key

/-! ## Writes that are made twice -/

namespace Fields

/-- Records with the same fields in the same order, that hold the same in each, are the same. -/
theorem eq_of_get? {first second : Fields} (h : second.keys.Nodup) (hkeys : first.keys = second.keys)
    (hvalues : ∀ k, first.get? k = second.get? k) : first = second := by
  calc first
      = first.keys.map fun k => (k, first.get? k) := (map_get?_keys (hkeys ▸ h)).symm
    _ = second.keys.map fun k => (k, second.get? k) := by simp only [hkeys, hvalues]
    _ = second := map_get?_keys h

theorem keys_writeAll_of_mem {writes : List (FieldKey × Option String)} {fields : Fields}
    (h : ∀ w ∈ writes, w.1 ∈ fields.keys) : (writeAll writes fields).keys = fields.keys := by
  induction writes using List.reverseRecOn with
  | nil => rfl
  | append_singleton before w ih =>
    have hbefore := ih fun v hv => h v (List.mem_append_left [w] hv)
    have hw : w.1 ∈ (writeAll before fields).keys := hbefore ▸ h w (by simp)
    rw [writeAll_concat, keys_insert_of_mem hw, hbefore]

/-- **A row of writes that is made twice changes nothing the second time**, since the last write to a
field is the last one both times. -/
theorem writeAll_writeAll {writes : List (FieldKey × Option String)} {fields : Fields}
    (h : (writeAll writes fields).keys.Nodup) :
    writeAll writes (writeAll writes fields) = writeAll writes fields := by
  have hkeys : (writeAll writes (writeAll writes fields)).keys = (writeAll writes fields).keys :=
    keys_writeAll_of_mem fun w hw => mem_keys_writeAll.2 (Or.inr ⟨w, hw, rfl⟩)
  have hvalues : ∀ k,
      (writeAll writes (writeAll writes fields)).get? k = (writeAll writes fields).get? k := by
    intro k
    unfold get?
    rw [lookup_writeAll writes (writeAll writes fields), lookup_writeAll writes fields,
      ← Option.or_assoc, Option.or_self]
  exact eq_of_get? h hkeys hvalues

theorem get?_writeAll_of_unwritten {writes : List (FieldKey × Option String)} {k : FieldKey}
    (h : ∀ w ∈ writes, w.1 ≠ k) (fields : Fields) :
    (writeAll writes fields).get? k = fields.get? k := by
  have hnone : writes.filter (·.1 = k) = [] := by simpa [List.filter_eq_nil_iff] using h
  rw [get?, lookup_writeAll, hnone]
  rfl

end Fields

/-! ## What a pass leaves alone -/

/-- The rules that were applied are among those that the pass was made of. -/
theorem mem_of_mem_appliedActions {record : Fields} {rules : List Action} {t : Trace}
    (h : trace record rules = .ok t) {a : Action} (ha : a ∈ appliedActions t.outcomes) :
    a ∈ rules := by
  obtain ⟨o, ho, rfl⟩ := List.mem_map.1 ha
  rw [← (trace_reports h).1]
  exact List.mem_map_of_mem (List.mem_filter.1 ho).1

/-- A field that no rule writes keeps what it held. -/
theorem get?_of_unwritten {record : Fields} {rules : List Action} {t : Trace}
    (h : trace record rules = .ok t) {k : FieldKey} (hk : ∀ a ∈ rules, a.key ≠ k) :
    t.fields.get? k = record.normalise.get? k := by
  rw [pass_fields (trace_eq_ok_iff.1 h)]
  apply Fields.get?_writeAll_of_unwritten
  intro w hw
  obtain ⟨a, ha, rfl⟩ := List.mem_map.1 hw
  exact hk a (mem_of_mem_appliedActions h ha)

/-- What is reported of a rule holds of every record in which its conditions find the same. -/
theorem Outcome.Describes.congr {o : Outcome} {first second : Fields} (h : o.Describes first)
    (hread : ∀ c ∈ o.action.conditions, first.get? c.key = second.get? c.key) :
    o.Describes second := by
  have hsame := firstFailed_congr hread
  constructor
  · rw [h.applied_iff, ← firstFailed_eq_none_iff, ← firstFailed_eq_none_iff, hsame]
  · intro c
    rw [h.failed_iff, ← firstFailed_eq_some_iff, ← firstFailed_eq_some_iff, hsame]

/-! ## Rules without feedback -/

/-- Rules without feedback are all decided by the record as it came. -/
theorem decided_by_record {record : Fields} {rules : List Action} (h : NoFeedback rules) {t : Trace}
    (ht : trace record rules = .ok t) : ∀ o ∈ t.outcomes, o.Describes record.normalise := by
  intro o ho
  obtain ⟨i, hi⟩ := List.mem_iff_getElem?.1 ho
  have hlength : t.outcomes.length = rules.length := by
    rw [← (trace_reports ht).1, List.length_map]
  have hlt : i < rules.length := hlength ▸ (List.getElem?_eq_some_iff.1 hi).1
  obtain ⟨o', between, ho', _, haction, hbetween, hd⟩ := trace_outcome ht hlt
  obtain rfl : o = o' := Option.some.inj (hi.symm.trans ho')
  obtain ⟨u, hu, rfl⟩ := map_eq_ok_iff.1 hbetween
  -- Its conditions find in the record at its position what they find in the record as it came.
  refine hd.congr fun c hc => get?_of_unwritten hu fun b hb => ?_
  exact h o.action (haction ▸ List.getElem_mem hlt) c hc b (List.mem_of_mem_take hb)

/-- Rules without feedback come to the same once more, and the same is reported of them. -/
theorem trace_again {record : Fields} {rules : List Action} (h : NoFeedback rules) {t : Trace}
    (ht : trace record rules = .ok t) : trace t.fields rules = .ok t := by
  have hp := trace_eq_ok_iff.1 ht
  have hnormal := normal_of_trace ht
  have hread : ReadAlike rules record.normalise t.fields := fun a ha c hc =>
    (get?_of_unwritten ht fun b hb => h a ha c hc b hb).symm
  have hsame := pass_congr hread 0
  rw [hp] at hsame
  obtain ⟨⟨outcomes, after⟩, hq, rfl⟩ := map_eq_ok_iff.1 hsame.symm
  have hafter : after = t.fields := by
    rw [pass_fields hq, pass_fields hp]
    exact Fields.writeAll_writeAll (pass_fields hp ▸ hnormal.nodup)
  rw [trace_eq_ok_iff, Fields.normalise_of_normal hnormal, hq, hafter]

/-! ## The result -/

/-- **Beautifying twice is harmless when rules do not feed back.**  Where no condition of some rules
reads a field that one of them writes, applying the rules to what they made of a record changes
nothing, fails only where they failed on the record itself, and has the same report on every rule; and
what is reported holds of the record as it came. -/
theorem repetition_changes_nothing {rules : List Action} (h : NoFeedback rules) (record : Fields) :
    (applyRules record rules >>= fun once => applyRules once rules) = applyRules record rules ∧
      ∀ t, trace record rules = .ok t → trace t.fields rules = .ok t ∧
        ∀ o ∈ t.outcomes, o.Describes record.normalise := by
  refine ⟨?_, fun t ht => ⟨trace_again h ht, decided_by_record h ht⟩⟩
  cases ht : trace record rules with
  | error r =>
    rw [applyRules, ht]
    rfl
  | ok t =>
    rw [applyRules_of_trace ht]
    exact applyRules_of_trace (trace_again h ht)

/-- A record of a journal. -/
def journal : Fields :=
  [(⟨"002@", none⟩, some "Ob"), (⟨"021A", some "a"⟩, some "Der Spiegel"), (⟨"209A", some ""⟩, none)]

/-- Rules of which three write the same field, and none reads what is written. -/
def journalRules : List Action :=
  let material (pattern : String) : Condition := ⟨"002@", none, pattern, .wholeMatch⟩
  [⟨"209A", none, "Z␣1", .replace, [material "O."]⟩,
    ⟨"209A", some "", "Z␣2", .replace, [⟨"021A", some "a", "Der␣.*", .wholeMatch⟩]⟩,
    ⟨"036E", some "a", "Reihe", .replace, [material "A.*"]⟩,
    ⟨"209A", none, "Z␣3", .replace, [⟨"010@", none, "ger", .wholeMatch⟩]⟩]

theorem repetition_changes_nothing_journal :
    NoFeedback journalRules ∧ ∃ t, trace journal journalRules = .ok t ∧
      t.outcomes.map (·.applied) = [true, true, false, false] ∧
      t.fields.lookup ⟨"209A", none⟩ = some (some "Z 2") ∧ trace t.fields journalRules = .ok t := by
  have hfree : NoFeedback journalRules := by
    unfold NoFeedback
    decide
  have hresult : (trace journal journalRules).toOption.map (fun t =>
      (t.outcomes.map (·.applied), t.fields.lookup ⟨"209A", none⟩)) =
      some ([true, true, false, false], some (some "Z 2")) := by decide +kernel
  obtain ⟨t, ht, heq⟩ := toOption_map_eq_some_iff.1 hresult
  obtain ⟨happlied, hlookup⟩ := Prod.mk.inj heq
  exact ⟨hfree, t, ht, happlied, hlookup, ((repetition_changes_nothing hfree journal).2 t ht).1⟩

end LibraryCatalogue
