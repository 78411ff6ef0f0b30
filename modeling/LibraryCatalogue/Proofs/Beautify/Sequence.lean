import LibraryCatalogue.Beautify
import LibraryCatalogue.Proofs.Results

/-!
# Rules are applied in sequence

Each rule works on what the rules before it left, and what is reported of it is said of the record at
that very position.

* `Fields.Normal`, `normalise_of_normal` — a record with normal keys, which normalising leaves alone;
  every rule leaves such a record behind (`normal_of_pass`);
* `firstFailed_eq_none_iff`, `firstFailed_eq_some_iff` — what the first failed condition is;
* `pass_append`, `pass_shift` — a row of rules in two parts, and under other numbers;
* `trace_append` — a pass over a record in two parts;
* `trace_outcome` — what is reported of the rule at one position;
* `applied_in_sequence` — all of it together.
-/

namespace LibraryCatalogue

open Results

/-! ## Records in normal form -/

namespace Fields

/-- The keys of a record. -/
def keys (fields : Fields) : List FieldKey :=
  fields.map (·.1)

/-- Every key of a record is in its normal form and there only once. -/
structure Normal (fields : Fields) : Prop where
  key_normal : ∀ k ∈ fields.keys, k.normal = k
  nodup : fields.keys.Nodup

theorem insert_of_not_mem {fields : Fields} {key : FieldKey} (h : key ∉ fields.keys)
    (value : Option String) : insert key value fields = fields ++ [(key, value)] := by
  induction fields with
  | nil => rfl
  | cons e rest ih =>
    obtain ⟨k, v⟩ := e
    rw [keys, List.map_cons, List.mem_cons, not_or] at h
    rw [insert, if_neg (Ne.symm h.1), ih h.2]
    rfl

theorem keys_insert_of_mem {fields : Fields} {key : FieldKey} (h : key ∈ fields.keys)
    (value : Option String) : (insert key value fields).keys = fields.keys := by
  induction fields with
  | nil => cases h
  | cons e rest ih =>
    obtain ⟨k, v⟩ := e
    by_cases hk : k = key
    · rw [insert, if_pos hk]
      rfl
    · have hrest : key ∈ keys rest := by
        rcases List.mem_cons.1 h with hkey | hrest
        · exact absurd hkey.symm hk
        · exact hrest
      have htail := ih hrest
      rw [insert, if_neg hk]
      simp only [keys, List.map_cons] at htail ⊢
      rw [htail]

theorem Normal.insert {fields : Fields} (h : Normal fields) {key : FieldKey}
    (hk : key.normal = key) (value : Option String) : Normal (insert key value fields) := by
  by_cases hmem : key ∈ fields.keys
  · constructor
    · rw [keys_insert_of_mem hmem]
      exact h.key_normal
    · rw [keys_insert_of_mem hmem]
      exact h.nodup
  · have hkeys : (Fields.insert key value fields).keys = fields.keys ++ [key] := by
      rw [insert_of_not_mem hmem, keys, List.map_append]
      rfl
    constructor
    · intro k hmem'
      rw [hkeys, List.mem_append, List.mem_singleton] at hmem'
      rcases hmem' with hold | rfl
      · exact h.key_normal k hold
      · exact hk
    · rw [hkeys]
      exact List.nodup_append.2 ⟨h.nodup, by simp, fun k hold k' hnew heq => by
        rw [List.mem_singleton] at hnew
        exact hmem (hnew ▸ heq ▸ hold)⟩

theorem normal_normalise (fields : Fields) : Normal fields.normalise := by
  have hempty : Normal [] := ⟨fun k hk => absurd hk List.not_mem_nil, List.nodup_nil⟩
  refine List.foldlRecOn fields _ hempty ?_
  intro acc hacc e _
  exact hacc.insert e.1.normal_normal e.2

/-- **Normalising a normal record changes nothing**, not even the order of the fields. -/
theorem normalise_of_normal {fields : Fields} (h : Normal fields) : fields.normalise = fields := by
  -- The fields that were folded in already have none of the keys that are still to come.
  have hfold : ∀ (rest before : Fields), Normal (before ++ rest) →
      rest.foldl (fun acc (e : FieldKey × Option String) => insert e.1.normal e.2 acc) before =
        before ++ rest := by
    intro rest
    induction rest with
    | nil =>
      intro before _
      rw [List.append_nil]
      rfl
    | cons e rest ih =>
      intro before hn
      have hkeys : keys (before ++ e :: rest) = keys before ++ e.1 :: keys rest := by
        rw [keys, List.map_append, List.map_cons]
        rfl
      have hnormal : e.1.normal = e.1 := hn.key_normal e.1 (by rw [hkeys]; simp)
      have habsent : e.1 ∉ keys before := by
        intro hmem
        have hnodup := hn.nodup
        rw [hkeys, List.nodup_append] at hnodup
        exact hnodup.2.2 e.1 hmem e.1 List.mem_cons_self rfl
      have hmove : before ++ e :: rest = (before ++ [e]) ++ rest := by simp
      rw [List.foldl_cons, hnormal, insert_of_not_mem habsent, hmove]
      exact ih (before ++ [e]) (hmove ▸ hn)
  exact hfold fields [] h

end Fields

/-! ## The first condition that fails -/

/-- A condition is the first of some that is false of a record. -/
def FirstFalse (fields : Fields) (conditions : List Condition) (c : Condition) : Prop :=
  ∃ before after, conditions = before ++ c :: after ∧
    (∀ b ∈ before, b.holds fields = .ok true) ∧ c.holds fields = .ok false

theorem firstFailed_eq_none_iff {fields : Fields} {conditions : List Condition} :
    firstFailed fields conditions = .ok none ↔ ∀ c ∈ conditions, c.holds fields = .ok true := by
  induction conditions with
  | nil => simp [firstFailed]
  | cons c rest ih =>
    rw [firstFailed, List.forall_mem_cons, ← ih]
    cases hc : c.holds fields with
    | error r => simp [bind, Except.bind]
    | ok b => cases b <;> simp [bind, Except.bind, pure, Except.pure]

theorem firstFalse_cons {fields : Fields} {first : Condition} {rest : List Condition}
    {c : Condition} : FirstFalse fields (first :: rest) c ↔
      (first = c ∧ first.holds fields = .ok false) ∨
        (first.holds fields = .ok true ∧ FirstFalse fields rest c) := by
  constructor
  · rintro ⟨before, after, heq, hbefore, hc⟩
    cases before with
    | nil =>
      obtain ⟨rfl, rfl⟩ := List.cons.inj heq
      exact Or.inl ⟨rfl, hc⟩
    | cons b before =>
      obtain ⟨rfl, rfl⟩ := List.cons.inj heq
      rw [List.forall_mem_cons] at hbefore
      exact Or.inr ⟨hbefore.1, before, after, rfl, hbefore.2, hc⟩
  · rintro (⟨rfl, hc⟩ | ⟨hfirst, before, after, rfl, hbefore, hc⟩)
    · exact ⟨[], rest, rfl, fun b hb => absurd hb List.not_mem_nil, hc⟩
    · exact ⟨first :: before, after, rfl, List.forall_mem_cons.2 ⟨hfirst, hbefore⟩, hc⟩

theorem firstFailed_eq_some_iff {fields : Fields} {conditions : List Condition} {c : Condition} :
    firstFailed fields conditions = .ok (some c) ↔ FirstFalse fields conditions c := by
  induction conditions with
  | nil => simp [firstFailed, FirstFalse]
  | cons first rest ih =>
    rw [firstFailed, firstFalse_cons, ← ih]
    cases hc : first.holds fields with
    | error r => simp [bind, Except.bind]
    | ok b => cases b <;> simp [bind, Except.bind, pure, Except.pure]

/-! ## A row of rules -/

/-- The report of a rule, under a number that is higher by some. -/
def Outcome.shift (more : Nat) (o : Outcome) : Outcome :=
  { o with index := o.index + more }

theorem Action.key_normal (a : Action) : a.key.normal = a.key :=
  FieldKey.normal_normal _

/-- What one rule does: it reports the first condition that fails, and writes when none does. -/
theorem step_eq (fields : Fields) (a : Action) :
    step fields a = (firstFailed fields a.conditions).map fun failed =>
      (failed, if failed.isNone then a.write fields else fields) := by
  unfold step
  cases firstFailed fields a.conditions with
  | error r => rfl
  | ok failed => cases failed <;> rfl

theorem normal_of_step {fields after : Fields} {a : Action} {failed : Option Condition}
    (h : fields.Normal) (hs : step fields a = .ok (failed, after)) : after.Normal := by
  rw [step_eq] at hs
  obtain ⟨failed', _, heq⟩ := map_eq_ok_iff.1 hs
  cases heq
  split
  · unfold Action.write
    cases a.mode with
    | replace => exact h.insert a.key_normal _
  · exact h

theorem pass_cons (index : Nat) (fields : Fields) (a : Action) (rest : List Action) :
    pass index fields (a :: rest) = step fields a >>= fun s =>
      (pass (index + 1) s.2 rest).map fun p => (⟨index, a, s.1⟩ :: p.1, p.2) := rfl

/-- **All that a row of rules can come to** when it comes to an end: its first rule did, and then the
others on what that one left. -/
theorem pass_cons_eq_ok_iff {index : Nat} {fields after : Fields} {a : Action} {rest : List Action}
    {outcomes : List Outcome} : pass index fields (a :: rest) = .ok (outcomes, after) ↔
      ∃ failed between later, step fields a = .ok (failed, between) ∧
        pass (index + 1) between rest = .ok (later, after) ∧
        outcomes = ⟨index, a, failed⟩ :: later := by
  rw [pass_cons, bind_eq_ok_iff]
  constructor
  · rintro ⟨⟨failed, between⟩, hs, h⟩
    obtain ⟨⟨later, after'⟩, hp, heq⟩ := map_eq_ok_iff.1 h
    cases heq
    exact ⟨failed, between, later, hs, hp, rfl⟩
  · rintro ⟨failed, between, later, hs, hp, rfl⟩
    exact ⟨(failed, between), hs, map_eq_ok_iff.2 ⟨(later, after), hp, rfl⟩⟩

theorem normal_of_pass {index : Nat} {fields after : Fields} {rules : List Action}
    {outcomes : List Outcome} (h : fields.Normal)
    (hp : pass index fields rules = .ok (outcomes, after)) : after.Normal := by
  induction rules generalizing index fields outcomes with
  | nil =>
    cases hp
    exact h
  | cons a rest ih =>
    obtain ⟨_, between, later, hs, hrest, rfl⟩ := pass_cons_eq_ok_iff.1 hp
    exact ih (normal_of_step h hs) hrest

/-- There is one report for each rule, in order and numbered without a gap. -/
theorem pass_reports {index : Nat} {fields after : Fields} {rules : List Action}
    {outcomes : List Outcome} (hp : pass index fields rules = .ok (outcomes, after)) :
    outcomes.map (·.action) = rules ∧
      outcomes.map (·.index) = List.range' index rules.length := by
  induction rules generalizing index fields outcomes with
  | nil =>
    cases hp
    exact ⟨rfl, rfl⟩
  | cons a rest ih =>
    obtain ⟨failed, between, later, _, hrest, rfl⟩ := pass_cons_eq_ok_iff.1 hp
    obtain ⟨ha, hi⟩ := ih hrest
    constructor
    · rw [List.map_cons, ha]
    · rw [List.map_cons, hi, List.length_cons, List.range'_succ]

/-- **Two rows of rules, one after the other.** -/
theorem pass_append (index : Nat) (fields : Fields) (first second : List Action) :
    pass index fields (first ++ second) = pass index fields first >>= fun p =>
      (pass (index + first.length) p.2 second).map fun q => (p.1 ++ q.1, q.2) := by
  induction first generalizing index fields with
  | nil =>
    rw [List.nil_append, List.length_nil, Nat.add_zero]
    show _ = (pass index fields second).map _
    cases pass index fields second <;> rfl
  | cons a rest ih =>
    rw [List.cons_append, pass_cons, pass_cons, List.length_cons]
    cases step fields a with
    | error r => rfl
    | ok s =>
      show (pass (index + 1) s.2 (rest ++ second)).map _ = _
      have hindex : index + (rest.length + 1) = index + 1 + rest.length := by omega
      rw [ih, hindex]
      simp only [bind, Except.bind]
      cases pass (index + 1) s.2 rest with
      | error r => rfl
      | ok p =>
        simp only [Except.map]
        cases pass (index + 1 + rest.length) p.2 second <;> rfl

/-- The number of the first rule is only added to the numbers in the reports. -/
theorem pass_shift (index more : Nat) (fields : Fields) (rules : List Action) :
    pass (index + more) fields rules = (pass index fields rules).map fun p =>
      (p.1.map (·.shift more), p.2) := by
  induction rules generalizing index fields with
  | nil => rfl
  | cons a rest ih =>
    rw [pass_cons, pass_cons]
    cases step fields a with
    | error r => rfl
    | ok s =>
      have hindex : index + more + 1 = index + 1 + more := by omega
      simp only [bind, Except.bind]
      rw [hindex, ih]
      cases pass (index + 1) s.2 rest <;> rfl

/-! ## A pass over a record -/

theorem trace_eq (record : Fields) (rules : List Action) :
    trace record rules = (pass 0 record.normalise rules).map fun p => ⟨p.2, p.1⟩ := rfl

theorem trace_eq_ok_iff {record : Fields} {rules : List Action} {t : Trace} :
    trace record rules = .ok t ↔ pass 0 record.normalise rules = .ok (t.outcomes, t.fields) := by
  rw [trace_eq, map_eq_ok_iff]
  constructor
  · rintro ⟨p, hp, rfl⟩
    exact hp
  · intro hp
    exact ⟨_, hp, rfl⟩

theorem trace_eq_error_iff {record : Fields} {rules : List Action} {r : Pattern.Refusal} :
    trace record rules = .error r ↔ pass 0 record.normalise rules = .error r := by
  rw [trace_eq, map_eq_error_iff]

theorem applyRules_of_trace {record : Fields} {rules : List Action} {t : Trace}
    (h : trace record rules = .ok t) : applyRules record rules = .ok t.fields := by
  rw [applyRules, h]
  rfl

theorem normal_of_trace {record : Fields} {rules : List Action} {t : Trace}
    (h : trace record rules = .ok t) : t.fields.Normal :=
  normal_of_pass record.normal_normalise (trace_eq_ok_iff.1 h)

theorem trace_reports {record : Fields} {rules : List Action} {t : Trace}
    (h : trace record rules = .ok t) :
    t.outcomes.map (·.action) = rules ∧
      t.outcomes.map (·.index) = List.range rules.length := by
  rw [List.range_eq_range']
  exact pass_reports (trace_eq_ok_iff.1 h)

/-- **A pass over a record in two parts.**  The second part starts from what the first one left; that
its keys are normalised once more does nothing. -/
theorem trace_append (record : Fields) (first second : List Action) :
    trace record (first ++ second) = trace record first >>= fun t =>
      (trace t.fields second).map fun u =>
        ⟨u.fields, t.outcomes ++ u.outcomes.map (·.shift first.length)⟩ := by
  rw [trace_eq, pass_append, trace_eq record first]
  cases hp : pass 0 record.normalise first with
  | error r => rfl
  | ok p =>
    have hn : p.2.Normal := normal_of_pass record.normal_normalise hp
    simp only [bind, Except.bind, Except.map]
    rw [trace_eq, Fields.normalise_of_normal hn, pass_shift]
    cases pass 0 p.2 second <;> rfl

theorem applyRules_append (record : Fields) (first second : List Action) :
    applyRules record (first ++ second) =
      applyRules record first >>= fun between => applyRules between second := by
  unfold applyRules
  rw [trace_append]
  cases trace record first with
  | error r => rfl
  | ok t =>
    simp only [bind, Except.bind, Except.map]
    cases trace t.fields second <;> rfl

/-- What is reported of a rule holds of a record: it was applied exactly when all of its conditions
are true, and otherwise the first of them that is false is named. -/
structure Outcome.Describes (o : Outcome) (fields : Fields) : Prop where
  applied_iff : o.applied = true ↔ ∀ c ∈ o.action.conditions, c.holds fields = .ok true
  failed_iff : ∀ c, o.failed = some c ↔ FirstFalse fields o.action.conditions c

theorem Outcome.describes_of_firstFailed {o : Outcome} {fields : Fields}
    (h : firstFailed fields o.action.conditions = .ok o.failed) : o.Describes fields := by
  constructor
  · rw [← firstFailed_eq_none_iff, h, applied]
    cases o.failed <;> simp
  · intro c
    rw [← firstFailed_eq_some_iff, h]
    simp

/-- **What is reported of a rule is said of the record at its position**, the one that the rules
before it left. -/
theorem trace_outcome {record : Fields} {rules : List Action} {t : Trace}
    (h : trace record rules = .ok t) {i : Nat} (hi : i < rules.length) :
    ∃ o between, t.outcomes[i]? = some o ∧ o.index = i ∧ o.action = rules[i] ∧
      applyRules record (rules.take i) = .ok between ∧ o.Describes between := by
  have hsplit : rules = rules.take i ++ rules[i] :: rules.drop (i + 1) := by simp
  have hlength : (rules.take i).length = i := by
    rw [List.length_take]
    omega
  rw [hsplit, trace_append, hlength] at h
  obtain ⟨before, hb, hrest⟩ := bind_eq_ok_iff.1 h
  obtain ⟨u, hu, heq⟩ := map_eq_ok_iff.1 hrest
  cases heq
  -- The reports of the rules before this one come first, one for each of them.
  have hcount : before.outcomes.length = i := by
    rw [← List.length_map (·.action), (trace_reports hb).1, hlength]
  -- The rule itself is the first of the others, which start from what was left.
  have hu' := trace_eq_ok_iff.1 hu
  rw [Fields.normalise_of_normal (normal_of_trace hb)] at hu'
  obtain ⟨failed, after, later, hs, _, houtcomes⟩ := pass_cons_eq_ok_iff.1 hu'
  rw [step_eq] at hs
  obtain ⟨failed', hf, heq⟩ := map_eq_ok_iff.1 hs
  cases heq
  refine ⟨⟨i, rules[i], failed⟩, before.fields, ?_, rfl, rfl, ?_,
    Outcome.describes_of_firstFailed hf⟩
  · simp [houtcomes, hcount, Outcome.shift]
  · rw [applyRules, hb]
    rfl

/-! ## The result -/

/-- **Rules are applied strictly in sequence.**  Two rows of rules, one after the other, do to a
record and report of it what the second does to, and reports of, that which the first left; where a
rule cannot be evaluated both sides fail alike.  Where a pass comes to an end there is one report for
each rule, numbered by its position; it says whether the rule was applied, and if not, which of its
conditions was the first to be false, of the record that the rules before it left. -/
theorem applied_in_sequence (record : Fields) (first second : List Action) :
    applyRules record (first ++ second) =
        (applyRules record first >>= fun between => applyRules between second) ∧
      trace record (first ++ second) =
        (trace record first >>= fun t => (trace t.fields second).map fun u =>
          ⟨u.fields, t.outcomes ++ u.outcomes.map (·.shift first.length)⟩) ∧
      (∀ rules, beautify record rules = applyRules record rules ∧
        applyRules record rules = (trace record rules).map (·.fields)) ∧
      ∀ rules t, trace record rules = .ok t →
        t.outcomes.map (·.action) = rules ∧ t.outcomes.map (·.index) = List.range rules.length ∧
        t.appliedCount = (t.outcomes.filter (·.applied)).length ∧
        ∀ i (hi : i < rules.length), ∃ o between, t.outcomes[i]? = some o ∧ o.index = i ∧
          o.action = rules[i] ∧ applyRules record (rules.take i) = .ok between ∧
          (o.applied = true ↔ ∀ c ∈ o.action.conditions, c.holds between = .ok true) ∧
          (o.applied = false → ∃ c, o.failed = some c ∧
            FirstFalse between o.action.conditions c) := by
  refine ⟨applyRules_append record first second, trace_append record first second,
    fun rules => ⟨rfl, rfl⟩, ?_⟩
  intro rules t ht
  obtain ⟨hactions, hindexes⟩ := trace_reports ht
  refine ⟨hactions, hindexes, List.countP_eq_length_filter, ?_⟩
  intro i hi
  obtain ⟨o, between, ho, hindex, haction, hbetween, hd⟩ := trace_outcome ht hi
  refine ⟨o, between, ho, hindex, haction, hbetween, hd.applied_iff, ?_⟩
  intro hnot
  obtain ⟨c, hc⟩ := Option.isSome_iff_exists.1 (Option.isNone_eq_false_iff.1 hnot)
  exact ⟨c, hc, (hd.failed_iff c).1 hc⟩

/-- A record of a novel, with a key that is not in its normal form. -/
def novel : Fields :=
  [(⟨"002@", some ""⟩, some "Oa"), (⟨"010@", some "a"⟩, some "ger")]

/-- Rules of which the first makes the second apply, and keeps the third from applying. -/
def novelRules : List Action :=
  let material (pattern : String) : Condition := ⟨"002@", none, pattern, .wholeMatch⟩
  let language (pattern : String) : Condition := ⟨"010@", some "a", pattern, .wholeMatch⟩
  [⟨"002@", none, "Aau", .replace, [material "O."]⟩,
    ⟨"010@", some "a", "mul", .replace, [material "Aa.", language "ger"]⟩,
    ⟨"002@", none, "X", .replace, [language "mul", material "O."]⟩]

/-- What the rules come to: the third fails at its second condition, which held of the record as it
came. -/
def novelTrace : Trace where
  fields := [(⟨"002@", none⟩, some "Aau"), (⟨"010@", some "a"⟩, some "mul")]
  outcomes :=
    [⟨0, novelRules[0], none⟩, ⟨1, novelRules[1], none⟩,
      ⟨2, novelRules[2], some ⟨"002@", none, "O.", .wholeMatch⟩⟩]

theorem applied_in_sequence_novel :
    trace novel novelRules = .ok novelTrace ∧ novelTrace.appliedCount = 2 ∧
      ∃ between, applyRules novel (novelRules.take 2) = .ok between ∧
        FirstFalse between novelRules[2].conditions ⟨"002@", none, "O.", .wholeMatch⟩ := by
  have ht : trace novel novelRules = .ok novelTrace :=
    toOption_eq_some_iff.1 (by decide +kernel)
  refine ⟨ht, by decide, ?_⟩
  obtain ⟨o, between, ho, _, haction, hbetween, _, hfailed⟩ :=
    ((applied_in_sequence novel [] []).2.2.2 novelRules novelTrace ht).2.2.2 2 (by decide)
  cases ho
  obtain ⟨c, hc, hfirst⟩ := hfailed rfl
  cases hc
  exact ⟨between, hbetween, hfirst⟩

end LibraryCatalogue
