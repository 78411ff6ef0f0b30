import LibraryCatalogue.Proofs.Beautify.Sequence
import Mathlib.Data.List.Induction

/-!
# The last write wins

What a pass leaves in a record is the record itself, with its keys in their normal form, under the
writes of the rules that were applied.  Which rules these are depends on the record at each of their
positions; what they leave does not.

* `Fields.writeAll` — a row of writes, what it leaves in a field (`lookup_writeAll`) and which fields
  it leaves (`mem_keys_writeAll`, `keys_prefix_writeAll`);
* `pass_fields`, `pass_appliedActions` — a row of rules is the row of writes of those that were
  applied, and these alone come to the same;
* `applyRules_of_firstFalse` — a rule with a condition that is false writes nothing;
* `last_write_wins` — all of it together.
-/

namespace LibraryCatalogue

open Results

/-! ## Rows of writes -/

namespace Fields

/-- A record after a row of writes, one after the other. -/
def writeAll (writes : List (FieldKey × Option String)) (fields : Fields) : Fields :=
  writes.foldl (fun acc w => insert w.1 w.2 acc) fields

theorem writeAll_concat (writes : List (FieldKey × Option String)) (w : FieldKey × Option String)
    (fields : Fields) : writeAll (writes ++ [w]) fields = insert w.1 w.2 (writeAll writes fields) := by
  rw [writeAll, List.foldl_append]
  rfl

/-- **A field holds what was written to it last**, or what it held if nothing was. -/
theorem lookup_writeAll (writes : List (FieldKey × Option String)) (fields : Fields) (k : FieldKey) :
    (writeAll writes fields).lookup k =
      ((writes.filter (·.1 = k)).getLast?.map (·.2)).or (fields.lookup k) := by
  -- From the end: the last of the writes decides, unless it is to another field.
  induction writes using List.reverseRecOn with
  | nil => rfl
  | append_singleton before w ih =>
    rw [writeAll_concat, lookup_insert, List.filter_append, List.getLast?_append]
    by_cases hw : w.1 = k
    · simp [hw]
    · rw [if_neg (Ne.symm hw), ih]
      simp [hw]

theorem mem_keys_insert {fields : Fields} {key k : FieldKey} {value : Option String} :
    k ∈ (insert key value fields).keys ↔ k ∈ fields.keys ∨ key = k := by
  by_cases hmem : key ∈ fields.keys
  · rw [keys_insert_of_mem hmem]
    constructor
    · exact Or.inl
    · rintro (hk | rfl)
      · exact hk
      · exact hmem
  · rw [insert_of_not_mem hmem, keys, List.map_append, List.mem_append]
    simp [keys, eq_comm]

theorem mem_keys_writeAll {writes : List (FieldKey × Option String)} {fields : Fields}
    {k : FieldKey} :
    k ∈ (writeAll writes fields).keys ↔ k ∈ fields.keys ∨ ∃ w ∈ writes, w.1 = k := by
  induction writes using List.reverseRecOn with
  | nil => simp [writeAll]
  | append_singleton before w ih =>
    rw [writeAll_concat, mem_keys_insert, ih]
    simp only [List.mem_append, List.mem_singleton, or_and_right, exists_or, exists_eq_left, or_assoc]

theorem keys_prefix_insert (fields : Fields) (key : FieldKey) (value : Option String) :
    fields.keys <+: (insert key value fields).keys := by
  by_cases hmem : key ∈ fields.keys
  · exact (keys_insert_of_mem hmem value).symm ▸ List.prefix_rfl
  · rw [insert_of_not_mem hmem, keys, keys, List.map_append]
    exact List.prefix_append _ _

/-- Writes remove no field and move none: new ones come after those that were there. -/
theorem keys_prefix_writeAll (writes : List (FieldKey × Option String)) (fields : Fields) :
    fields.keys <+: (writeAll writes fields).keys := by
  induction writes using List.reverseRecOn with
  | nil => exact List.prefix_rfl
  | append_singleton before w ih =>
    rw [writeAll_concat]
    exact ih.trans (keys_prefix_insert _ _ _)

/-- Normalising a record writes its fields into an empty one, under their normal keys. -/
theorem normalise_eq_writeAll (record : Fields) :
    record.normalise = writeAll (record.map fun e => (e.1.normal, e.2)) [] := by
  rw [writeAll, List.foldl_map]
  rfl

/-- **Of fields that become one the last counts.** -/
theorem lookup_normalise (record : Fields) (k : FieldKey) :
    record.normalise.lookup k = (record.filter (·.1.normal = k)).getLast?.map (·.2) := by
  rw [normalise_eq_writeAll, lookup_writeAll, List.filter_map, List.getLast?_map, Option.map_map,
    List.lookup_nil, Option.or_none]
  rfl

theorem mem_keys_normalise {record : Fields} {k : FieldKey} :
    k ∈ record.normalise.keys ↔ ∃ e ∈ record, e.1.normal = k := by
  rw [normalise_eq_writeAll, mem_keys_writeAll]
  simp only [List.mem_map, exists_exists_and_eq_and]
  exact or_iff_right List.not_mem_nil

theorem lookup_of_mem {fields : Fields} (h : fields.keys.Nodup) {k : FieldKey} {v : Option String}
    (hmem : (k, v) ∈ fields) : fields.lookup k = some v := by
  induction fields with
  | nil => cases hmem
  | cons e rest ih =>
    obtain ⟨k', v'⟩ := e
    rw [keys, List.map_cons, List.nodup_cons] at h
    rcases List.mem_cons.1 hmem with heq | hrest
    · cases heq
      simp
    · have hkey : k ∈ rest.map (·.1) := List.mem_map_of_mem hrest
      have hne : k ≠ k' := by
        rintro rfl
        exact h.1 hkey
      rw [List.lookup_cons, beq_eq_false_iff_ne.2 hne]
      exact ih h.2 hrest

theorem mem_iff_lookup {fields : Fields} (h : fields.keys.Nodup) {k : FieldKey}
    {v : Option String} : (k, v) ∈ fields ↔ fields.lookup k = some v := by
  constructor
  · exact lookup_of_mem h
  · intro hlookup
    obtain ⟨before, after, rfl, _⟩ := List.lookup_eq_some_iff.1 hlookup
    simp

/-- A record is told by its keys and by what it holds under them. -/
theorem map_get?_keys {fields : Fields} (h : fields.keys.Nodup) :
    (fields.keys.map fun k => (k, fields.get? k)) = fields := by
  rw [keys, List.map_map]
  calc fields.map (fun e => (e.1, fields.get? e.1))
      = fields.map id := by
        apply List.map_congr_left
        intro e he
        rw [get?, lookup_of_mem h he]
        rfl
    _ = fields := List.map_id fields

/-- A key of a normal record has no subtag, or one that is not empty. -/
theorem Normal.subtag_ne_empty {fields : Fields} (h : fields.Normal) {k : FieldKey}
    (hk : k ∈ fields.keys) : k.subtag ≠ some "" := by
  intro hempty
  have hnormal : normalSubtag k.subtag = k.subtag := congrArg FieldKey.subtag (h.key_normal k hk)
  rw [hempty] at hnormal
  exact absurd hnormal (by decide)

end Fields

/-! ## The writes of a pass -/

/-- What an action writes. -/
def Action.entry (a : Action) : FieldKey × Option String :=
  (a.key, some a.literalValue)

theorem Action.write_eq (a : Action) (fields : Fields) :
    a.write fields = Fields.insert a.key (some a.literalValue) fields := by
  unfold Action.write
  cases a.mode with
  | replace => rfl

/-- The actions of which some reports say that they were applied, in order. -/
def appliedActions (outcomes : List Outcome) : List Action :=
  (outcomes.filter (·.applied)).map (·.action)

theorem appliedActions_cons (o : Outcome) (rest : List Outcome) :
    appliedActions (o :: rest) =
      if o.applied then o.action :: appliedActions rest else appliedActions rest := by
  unfold appliedActions
  rw [List.filter_cons]
  split <;> rfl

/-- **A row of rules leaves the writes of those that were applied**, and nothing else. -/
theorem pass_fields {index : Nat} {fields after : Fields} {rules : List Action}
    {outcomes : List Outcome} (hp : pass index fields rules = .ok (outcomes, after)) :
    after = Fields.writeAll ((appliedActions outcomes).map (·.entry)) fields := by
  induction rules generalizing index fields outcomes with
  | nil =>
    cases hp
    rfl
  | cons a rest ih =>
    obtain ⟨failed, between, later, hs, hrest, rfl⟩ := pass_cons_eq_ok_iff.1 hp
    rw [step_eq] at hs
    obtain ⟨failed', _, heq⟩ := map_eq_ok_iff.1 hs
    cases heq
    rw [ih hrest, appliedActions_cons]
    cases failed with
    | none =>
      simp only [Option.isNone_none, if_true, Outcome.applied, List.map_cons]
      rw [Action.write_eq]
      rfl
    | some c => rfl

/-- The rules of a row that were applied come to the same without the others, and are all applied. -/
theorem pass_appliedActions {index : Nat} {fields after : Fields} {rules : List Action}
    {outcomes : List Outcome} (hp : pass index fields rules = .ok (outcomes, after)) (first : Nat) :
    ∃ again, pass first fields (appliedActions outcomes) = .ok (again, after) ∧
      ∀ o ∈ again, o.applied = true := by
  induction rules generalizing index fields outcomes first with
  | nil =>
    cases hp
    exact ⟨[], rfl, fun o ho => absurd ho List.not_mem_nil⟩
  | cons a rest ih =>
    obtain ⟨failed, between, later, hs, hrest, rfl⟩ := pass_cons_eq_ok_iff.1 hp
    rw [appliedActions_cons]
    cases failed with
    | none =>
      obtain ⟨again, hagain, hall⟩ := ih hrest (first + 1)
      refine ⟨⟨first, a, none⟩ :: again, ?_, List.forall_mem_cons.2 ⟨rfl, hall⟩⟩
      exact pass_cons_eq_ok_iff.2 ⟨none, between, again, hs, hagain, rfl⟩
    | some c =>
      rw [step_eq] at hs
      obtain ⟨failed', _, heq⟩ := map_eq_ok_iff.1 hs
      cases heq
      exact ih hrest first

/-- A rule with a condition that is false leaves a record as it is. -/
theorem applyRules_of_firstFalse {fields : Fields} {a : Action} {c : Condition} (h : fields.Normal)
    (hc : FirstFalse fields a.conditions c) : applyRules fields [a] = .ok fields := by
  have hstep : step fields a = .ok (some c, fields) := by
    rw [step_eq, firstFailed_eq_some_iff.2 hc]
    rfl
  rw [applyRules, trace_eq, Fields.normalise_of_normal h,
    pass_cons_eq_ok_iff.2 ⟨some c, fields, [], hstep, rfl, rfl⟩]
  rfl

theorem normal_of_applyRules {record fields : Fields} {rules : List Action}
    (h : applyRules record rules = .ok fields) : fields.Normal := by
  obtain ⟨t, ht, rfl⟩ := map_eq_ok_iff.1 h
  exact normal_of_trace ht

/-- What a rule that was not applied did: one of its conditions is false of the record at its
position, and that record is what it left. -/
theorem trace_failed {record : Fields} {rules : List Action} {t : Trace}
    (h : trace record rules = .ok t) {i : Nat} (hi : i < rules.length) :
    ∃ o between, t.outcomes[i]? = some o ∧ o.action = rules[i] ∧
      applyRules record (rules.take i) = .ok between ∧
      (o.applied = false ↔ ∃ c ∈ rules[i].conditions, c.holds between = .ok false) ∧
      (o.applied = false → applyRules record (rules.take (i + 1)) = .ok between) := by
  obtain ⟨o, between, ho, _, haction, hbetween, hd⟩ := trace_outcome h hi
  have hfirst : o.applied = false → ∃ c, FirstFalse between rules[i].conditions c := by
    intro hnot
    obtain ⟨c, hc⟩ := Option.isSome_iff_exists.1 (Option.isNone_eq_false_iff.1 hnot)
    exact ⟨c, haction ▸ (hd.failed_iff c).1 hc⟩
  refine ⟨o, between, ho, haction, hbetween, ⟨?_, ?_⟩, ?_⟩
  · intro hnot
    obtain ⟨c, before, after, hsplit, _, hc⟩ := hfirst hnot
    exact ⟨c, by simp [hsplit], hc⟩
  · rintro ⟨c, hmem, hc⟩
    refine Bool.eq_false_iff.2 fun happlied => ?_
    have htrue := hd.applied_iff.1 happlied c (haction ▸ hmem)
    rw [hc] at htrue
    cases htrue
  · intro hnot
    obtain ⟨c, hc⟩ := hfirst hnot
    have hsplit : rules.take (i + 1) = rules.take i ++ [rules[i]] := by simp
    rw [hsplit, applyRules_append, hbetween]
    exact applyRules_of_firstFalse (normal_of_applyRules hbetween) hc

/-! ## The result -/

/-- What a record comes to under rules is told by the record and by the rules that were applied. -/
structure Settled (record : Fields) (rules : List Action) (t : Trace) : Prop where
  /-- The pass gives the record that beautifying gives. -/
  result : applyRules record rules = .ok t.fields
  /-- The fields are those of the record and those that were written, each of them once. -/
  keys : ∀ k, k ∈ t.fields.keys ↔
    (∃ e ∈ record, e.1.normal = k) ∨ ∃ a ∈ appliedActions t.outcomes, a.key = k
  nodup : t.fields.keys.Nodup
  /-- The fields of the record keep their places. -/
  places : record.normalise.keys <+: t.fields.keys
  /-- A field that was written holds the value of the last rule that was applied to it. -/
  written : ∀ a ∈ appliedActions t.outcomes,
    ∃ b, ((appliedActions t.outcomes).filter (·.key = a.key)).getLast? = some b ∧
      t.fields.lookup a.key = some (some b.literalValue)
  /-- Every other field holds what it held, and of fields that become one the last counts. -/
  kept : ∀ k, (∀ a ∈ appliedActions t.outcomes, a.key ≠ k) →
    t.fields.lookup k = record.normalise.lookup k ∧
      t.fields.lookup k = (record.filter (·.1.normal = k)).getLast?.map (·.2)
  /-- No subtag is empty. -/
  subtags : ∀ k ∈ t.fields.keys, k.subtag = none ∨ ∃ s, s ≠ "" ∧ k.subtag = some s
  /-- The rules that were applied come to the same without the others. -/
  alone : applyRules record (appliedActions t.outcomes) = .ok t.fields
  /-- A rule is applied unless one of its conditions is false; then it leaves what it found. -/
  failed : ∀ i (hi : i < rules.length), ∃ o between, t.outcomes[i]? = some o ∧
    o.action = rules[i] ∧ applyRules record (rules.take i) = .ok between ∧
    (o.applied = false ↔ ∃ c ∈ rules[i].conditions, c.holds between = .ok false) ∧
    (o.applied = false → applyRules record (rules.take (i + 1)) = .ok between)

/-- The value that a pass leaves in a field. -/
theorem lookup_trace {record : Fields} {rules : List Action} {t : Trace}
    (h : trace record rules = .ok t) (k : FieldKey) :
    t.fields.lookup k =
      ((((appliedActions t.outcomes).filter (·.key = k)).getLast?).map fun a =>
        some a.literalValue).or (record.normalise.lookup k) := by
  rw [pass_fields (trace_eq_ok_iff.1 h), Fields.lookup_writeAll, List.filter_map, List.getLast?_map,
    Option.map_map]
  rfl

/-- **The last write wins and nothing else moves.**  Where a pass over a record comes to an end, its
fields are those of the record under their normal keys and those that rules were applied to.  A field
that rules were applied to holds the value of the last of them, its spaces restored; every other field
holds what the record had in it, and of fields of the record that become one the last counts.  No
subtag is empty, and a rule of which a condition is false leaves no trace in the record. -/
theorem last_write_wins {record : Fields} {rules : List Action} {t : Trace}
    (h : trace record rules = .ok t) : Settled record rules t := by
  have hpass := trace_eq_ok_iff.1 h
  have hnormal := normal_of_trace h
  constructor
  case result =>
    rw [applyRules, h]
    rfl
  case keys =>
    intro k
    rw [pass_fields hpass, Fields.mem_keys_writeAll, Fields.mem_keys_normalise]
    simp [Action.entry]
  case nodup => exact hnormal.nodup
  case places =>
    rw [pass_fields hpass]
    exact Fields.keys_prefix_writeAll _ _
  case written =>
    intro a ha
    have hmem : a ∈ (appliedActions t.outcomes).filter (·.key = a.key) := by simp [ha]
    have hlast := List.getLast?_eq_some_getLast (List.ne_nil_of_mem hmem)
    refine ⟨_, hlast, ?_⟩
    rw [lookup_trace h, hlast]
    rfl
  case kept =>
    intro k hother
    have hnone : (appliedActions t.outcomes).filter (·.key = k) = [] := by
      simpa [List.filter_eq_nil_iff] using hother
    have hlookup : t.fields.lookup k = record.normalise.lookup k := by
      rw [lookup_trace h, hnone]
      rfl
    exact ⟨hlookup, hlookup.trans (Fields.lookup_normalise record k)⟩
  case subtags =>
    intro k hk
    cases hs : k.subtag with
    | none => exact Or.inl rfl
    | some s =>
      refine Or.inr ⟨s, ?_, rfl⟩
      rintro rfl
      exact hnormal.subtag_ne_empty hk hs
  case alone =>
    obtain ⟨again, hagain, _⟩ := pass_appliedActions hpass 0
    rw [applyRules, trace_eq, hagain]
    rfl
  case failed => exact fun i hi => trace_failed h hi

/-- A record of a newspaper, two of whose keys become one. -/
def newspaper : Fields :=
  [(⟨"021A", none⟩, some "Zeit"), (⟨"002@", some ""⟩, some "Ob"),
    (⟨"021A", some ""⟩, some "Die Zeit")]

/-- Rules of which two write the same field, one fails, and one adds a field. -/
def newspaperRules : List Action :=
  [⟨"002@", some "", "Abv", .replace, [⟨"021A", none, "Die␣Zeit", .wholeMatch⟩]⟩,
    ⟨"021A", none, "Zeit", .replace, [⟨"002@", none, "Ob", .wholeMatch⟩]⟩,
    ⟨"002@", none, "Abv␣", .replace, []⟩,
    ⟨"209A", some "x", "E␣001", .replace, [⟨"002@", none, "Abv␣", .wholeMatch⟩]⟩]

/-- What the rules come to. -/
def newspaperTrace : Trace where
  fields :=
    [(⟨"021A", none⟩, some "Die Zeit"), (⟨"002@", none⟩, some "Abv "),
      (⟨"209A", some "x"⟩, some "E 001")]
  outcomes :=
    [⟨0, newspaperRules[0], none⟩, ⟨1, newspaperRules[1], some ⟨"002@", none, "Ob", .wholeMatch⟩⟩,
      ⟨2, newspaperRules[2], none⟩, ⟨3, newspaperRules[3], none⟩]

theorem last_write_wins_newspaper :
    trace newspaper newspaperRules = .ok newspaperTrace ∧
      newspaperTrace.fields.lookup ⟨"021A", none⟩ = newspaper.normalise.lookup ⟨"021A", none⟩ ∧
      applyRules newspaper [newspaperRules[0], newspaperRules[2], newspaperRules[3]] =
        .ok newspaperTrace.fields := by
  have ht : trace newspaper newspaperRules = .ok newspaperTrace :=
    toOption_eq_some_iff.1 (by decide +kernel)
  have hsettled := last_write_wins ht
  exact ⟨ht, (hsettled.kept ⟨"021A", none⟩ (by decide)).1, hsettled.alone⟩

end LibraryCatalogue
