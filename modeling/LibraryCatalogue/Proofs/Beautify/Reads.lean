import LibraryCatalogue.Proofs.Beautify.Writes

/-!
# What a pass depends on

Rules look at a record through their conditions alone.  Two records in which the conditions of some
rules find the same may differ in all else, and in how a field without a value is kept: the rules
report the same of both, and a rule that is applied writes the same into both.

* `ReadAlike` — the conditions of some rules find the same in two records; what a rule leaves of both
  is read alike again (`ReadAlike.leave`);
* `firstFailed_congr`, `pass_congr` — conditions, and a row of rules, report the same of such records;
* `get?_writeAll_congr`, `lookup_writeAll_of_mem` — what two records hold after the same writes;
* `reports_decided_by_reads` — all of it together, for passes over two records.
-/

namespace LibraryCatalogue

open Results

/-! ## What a rule leaves -/

/-- What a rule leaves of a record, given the first of its conditions that failed, if any did. -/
def Action.leave (a : Action) (failed : Option Condition) (fields : Fields) : Fields :=
  if failed.isNone then a.write fields else fields

/-- A row of rules, from the first one on: its conditions decide, and the others work on what it
leaves. -/
theorem pass_cons_eq (index : Nat) (fields : Fields) (a : Action) (rest : List Action) :
    pass index fields (a :: rest) = firstFailed fields a.conditions >>= fun failed =>
      (pass (index + 1) (a.leave failed fields) rest).map fun p =>
        (⟨index, a, failed⟩ :: p.1, p.2) := by
  rw [pass_cons, step_eq]
  cases firstFailed fields a.conditions <;> rfl

/-- A rule changes no field but the one that it writes, and that one only when it is applied. -/
theorem Action.lookup_leave (a : Action) (failed : Option Condition) (fields : Fields)
    (k : FieldKey) : (a.leave failed fields).lookup k =
      if failed.isNone ∧ k = a.key then some (some a.literalValue) else fields.lookup k := by
  unfold Action.leave
  by_cases hf : failed.isNone
  · rw [if_pos hf, Action.write_eq, Fields.lookup_insert]
    simp [hf]
  · simp [hf]

/-! ## Records that are read alike -/

/-- The conditions of some rules find the same in two records: the same value, or none in either. -/
def ReadAlike (rules : List Action) (first second : Fields) : Prop :=
  ∀ a ∈ rules, ∀ c ∈ a.conditions, first.get? c.key = second.get? c.key

theorem ReadAlike.leave {rules : List Action} {first second : Fields}
    (h : ReadAlike rules first second) (a : Action) (failed : Option Condition) :
    ReadAlike rules (a.leave failed first) (a.leave failed second) := by
  intro b hb c hc
  have hread := h b hb c hc
  unfold Fields.get? at hread ⊢
  rw [a.lookup_leave, a.lookup_leave]
  split
  · rfl
  · exact hread

theorem Condition.holds_congr {c : Condition} {first second : Fields}
    (h : first.get? c.key = second.get? c.key) : c.holds first = c.holds second := by
  unfold Condition.holds
  cases c.mode with
  | wholeMatch => rw [h]

theorem firstFailed_congr {conditions : List Condition} {first second : Fields}
    (h : ∀ c ∈ conditions, first.get? c.key = second.get? c.key) :
    firstFailed first conditions = firstFailed second conditions := by
  induction conditions with
  | nil => rfl
  | cons c rest ih =>
    obtain ⟨hc, hrest⟩ := List.forall_mem_cons.1 h
    rw [firstFailed, firstFailed, Condition.holds_congr hc, ih hrest]

/-- **A row of rules reports the same of records that it reads alike**, and fails alike where it
fails. -/
theorem pass_congr {rules : List Action} {first second : Fields}
    (h : ReadAlike rules first second) (index : Nat) :
    (pass index first rules).map (·.1) = (pass index second rules).map (·.1) := by
  induction rules generalizing index first second with
  | nil => rfl
  | cons a rest ih =>
    obtain ⟨ha, hrest⟩ := List.forall_mem_cons.1 h
    rw [pass_cons_eq, pass_cons_eq, firstFailed_congr ha]
    cases firstFailed second a.conditions with
    | error r => rfl
    | ok failed =>
      -- Whether the rule writes is the same for both, so the others find what they read alike again.
      have hlater := ih (ReadAlike.leave hrest a failed) (index + 1)
      simp only [bind, Except.bind]
      rcases map_eq_map_iff.1 hlater with ⟨p, q, hp, hq, heq⟩ | ⟨r, hp, hq⟩
      · rw [hp, hq]
        simp only [Except.map, heq]
      · rw [hp, hq]

/-! ## The same writes into two records -/

namespace Fields

theorem get?_writeAll_congr {first second : Fields} {k : FieldKey}
    (h : first.get? k = second.get? k) (writes : List (FieldKey × Option String)) :
    (writeAll writes first).get? k = (writeAll writes second).get? k := by
  unfold get? at h ⊢
  rw [lookup_writeAll, lookup_writeAll]
  cases (writes.filter (·.1 = k)).getLast? with
  | none => exact h
  | some w => rfl

/-- A field that is written holds the same whatever the record was. -/
theorem lookup_writeAll_of_mem {writes : List (FieldKey × Option String)}
    {w : FieldKey × Option String} (hw : w ∈ writes) (first second : Fields) :
    (writeAll writes first).lookup w.1 = (writeAll writes second).lookup w.1 := by
  have hmem : w ∈ writes.filter (·.1 = w.1) := by simp [hw]
  rw [lookup_writeAll, lookup_writeAll,
    List.getLast?_eq_some_getLast (List.ne_nil_of_mem hmem)]
  rfl

end Fields

/-! ## The result -/

/-- Two passes that cannot be told apart by what their rules report, read or wrote. -/
structure Indistinct (rules : List Action) (t u : Trace) : Prop where
  /-- The same is reported of every rule. -/
  outcomes : t.outcomes = u.outcomes
  /-- Every condition finds the same afterwards, or nothing in either. -/
  read : ReadAlike rules t.fields u.fields
  /-- Every field that was written holds the same in both. -/
  written : ∀ a ∈ appliedActions t.outcomes, t.fields.lookup a.key = u.fields.lookup a.key

/-- **What is reported depends on nothing but what conditions read.**  Passes of the same rules over
two records in which, under normal keys, all conditions of the rules find the same value or none in
either, fail alike or both come to an end; then they report the same of every rule, and leave records
that agree on what conditions read and on what was written. -/
theorem reports_decided_by_reads {rules : List Action} {first second : Fields}
    (h : ReadAlike rules first.normalise second.normalise) :
    (∃ t u, trace first rules = .ok t ∧ trace second rules = .ok u ∧ Indistinct rules t u) ∨
      ∃ r, trace first rules = .error r ∧ trace second rules = .error r := by
  rcases map_eq_map_iff.1 (pass_congr h 0) with ⟨⟨outcomes, after⟩, ⟨_, after'⟩, hp, hq, heq⟩ |
    ⟨r, hp, hq⟩
  · cases heq
    refine Or.inl ⟨⟨after, outcomes⟩, ⟨after', outcomes⟩, trace_eq_ok_iff.2 hp,
      trace_eq_ok_iff.2 hq, ?_⟩
    constructor
    case outcomes => rfl
    case read =>
      intro a ha c hc
      rw [pass_fields hp, pass_fields hq]
      exact Fields.get?_writeAll_congr (h a ha c hc) _
    case written =>
      intro a ha
      have hw : a.entry ∈ (appliedActions outcomes).map (·.entry) := List.mem_map_of_mem ha
      rw [pass_fields hp, pass_fields hq]
      exact Fields.lookup_writeAll_of_mem hw _ _
  · exact Or.inr ⟨r, trace_eq_error_iff.2 hp, trace_eq_error_iff.2 hq⟩

/-- A record of an atlas, with a shelf mark that has no value. -/
def atlas : Fields :=
  [(⟨"002@", none⟩, some "Kau"), (⟨"021A", some "a"⟩, some "Welt"), (⟨"209A", none⟩, none),
    (⟨"036E", some "a"⟩, some "Reihe 1")]

/-- A record of another one, which has no shelf mark at all. -/
def pocketAtlas : Fields :=
  [(⟨"021A", some "a"⟩, some "Länder"), (⟨"002@", some ""⟩, some "Kau")]

/-- Rules of which one fails for the missing shelf mark, and another applies to the one that was set
in between. -/
def atlasRules : List Action :=
  let material : Condition := ⟨"002@", none, "Ka.", .wholeMatch⟩
  [⟨"021A", some "a", "Atlas", .replace, [material]⟩,
    ⟨"002@", none, "Kaf", .replace, [⟨"209A", none, ".*", .wholeMatch⟩]⟩,
    ⟨"209A", some "", "K␣1", .replace, []⟩,
    ⟨"036E", some "a", "Karten", .replace, [⟨"209A", none, "K␣[0-9]", .wholeMatch⟩, material]⟩]

theorem reports_decided_by_reads_atlas :
    ReadAlike atlasRules atlas.normalise pocketAtlas.normalise ∧
      ∃ t u, trace atlas atlasRules = .ok t ∧ trace pocketAtlas atlasRules = .ok u ∧
        t.outcomes.map (·.applied) = [true, false, true, true] ∧ Indistinct atlasRules t u := by
  have hread : ReadAlike atlasRules atlas.normalise pocketAtlas.normalise := by
    unfold ReadAlike
    decide
  have happlied : (trace atlas atlasRules).toOption.map (·.outcomes.map (·.applied)) =
      some [true, false, true, true] := by decide +kernel
  obtain ⟨s, hs, happlied⟩ := toOption_map_eq_some_iff.1 happlied
  refine ⟨hread, ?_⟩
  rcases reports_decided_by_reads hread with ⟨t, u, ht, hu, h⟩ | ⟨r, hr, _⟩
  · cases hs.symm.trans ht
    exact ⟨s, u, hs, hu, happlied, h⟩
  · cases hs.symm.trans hr

end LibraryCatalogue
