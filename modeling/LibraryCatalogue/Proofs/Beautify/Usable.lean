import LibraryCatalogue.Proofs.Beautify.Sequence
import LibraryCatalogue.Proofs.Registry.Lookup

/-!
# Rules that resolve can be applied

An entry is checked when it is resolved, and its rules are used on every record.  Both look at the
same text of a pattern, the one with its spaces restored, so that a pattern which could be compiled
when the entry was resolved can be compiled on every record too.

* `Condition.Usable`, `Action.Usable` — the patterns of the conditions can be compiled;
* `Endpoint.usable_of_ofEntry` — resolving an entry makes usable rules only;
* `firstFailed_of_usable`, `pass_of_usable` — usable rules never fail, one by one and in a row;
* `resolved_rules_apply` — the rules of an endpoint apply to every record, and fetching a record
  fails only where the lookup or the client failed.
-/

namespace LibraryCatalogue

open Results

/-- The pattern of a condition, as it is used on records, can be compiled. -/
def Condition.Usable (c : Condition) : Prop :=
  ∃ p, Pattern.compile c.literalValue = .ok p

/-- All conditions of an action can be evaluated. -/
def Action.Usable (a : Action) : Prop :=
  ∀ c ∈ a.conditions, c.Usable

/-! ## Resolving makes usable rules -/

theorem Schema.ConditionEntry.usable_of_resolve {e : ConditionEntry} {c : Condition}
    (h : e.resolve = .ok c) : c.Usable := by
  unfold ConditionEntry.resolve at h
  split at h
  · cases h
  · split at h
    · rename_i p hp
      cases h
      exact ⟨p, hp⟩
    · cases h
    · cases h

theorem Schema.RuleEntry.usable_of_resolve {e : RuleEntry} {a : Action}
    (h : e.resolve = .ok a) : a.Usable := by
  unfold RuleEntry.resolve at h
  split at h
  · cases h
  · obtain ⟨conditions, hc, ha⟩ := bind_eq_ok_iff.1 h
    cases ha
    intro c hmem
    obtain ⟨w, _, hw⟩ := mem_of_mapM_eq_ok hc c hmem
    exact w.usable_of_resolve hw

/-- **Resolving an entry makes usable rules only.** -/
theorem Endpoint.usable_of_ofEntry {fields : Entries} {e : Endpoint}
    (h : Endpoint.ofEntry fields = .ok e) : ∀ a ∈ e.actions, a.Usable := by
  simp only [Endpoint.ofEntry] at h
  split at h
  · cases h
  · rename_i entry _
    cases hr : entry.resolve with
    | error f =>
      rw [hr] at h
      cases h
    | ok e' =>
      rw [hr] at h
      cases h
      obtain ⟨actions, ha, he⟩ := bind_eq_ok_iff.1 hr
      cases he
      intro a hmem
      obtain ⟨r, _, hr⟩ := mem_of_mapM_eq_ok ha a hmem
      exact r.usable_of_resolve hr

/-! ## Usable rules never fail -/

theorem Condition.holds_of_usable {c : Condition} (h : c.Usable) (fields : Fields) :
    ∃ b, c.holds fields = .ok b := by
  obtain ⟨p, hp⟩ := h
  unfold Condition.holds
  cases c.mode with
  | wholeMatch =>
    cases fields.get? c.key with
    | none => exact ⟨false, rfl⟩
    | some value => exact ⟨p.matchesAll value, by simp only [wholeMatch, hp, Except.map]⟩

theorem firstFailed_of_usable {cs : List Condition} (h : ∀ c ∈ cs, c.Usable) (fields : Fields) :
    ∃ failed, firstFailed fields cs = .ok failed := by
  induction cs with
  | nil => exact ⟨none, rfl⟩
  | cons c rest ih =>
    obtain ⟨b, hb⟩ := Condition.holds_of_usable (h c List.mem_cons_self) fields
    obtain ⟨failed, hf⟩ := ih fun x hx => h x (List.mem_cons_of_mem c hx)
    cases b with
    | true => exact ⟨failed, by simp only [firstFailed, hb, bind, Except.bind, hf, if_true]⟩
    | false => exact ⟨some c, by simp [firstFailed, hb, bind, Except.bind, pure, Except.pure]⟩

theorem step_of_usable {a : Action} (h : a.Usable) (fields : Fields) :
    ∃ failed after, step fields a = .ok (failed, after) := by
  obtain ⟨failed, hf⟩ := firstFailed_of_usable h fields
  cases failed with
  | none => exact ⟨none, a.write fields, by simp only [step, hf, bind, Except.bind]; rfl⟩
  | some c => exact ⟨some c, fields, by simp only [step, hf, bind, Except.bind]; rfl⟩

/-- **A row of usable rules never fails**, whatever the rules before did to the record. -/
theorem pass_of_usable {rules : List Action} (h : ∀ a ∈ rules, a.Usable) (index : Nat)
    (fields : Fields) : ∃ outcomes after, pass index fields rules = .ok (outcomes, after) := by
  induction rules generalizing index fields with
  | nil => exact ⟨[], fields, rfl⟩
  | cons a rest ih =>
    obtain ⟨failed, between, hs⟩ := step_of_usable (h a List.mem_cons_self) fields
    obtain ⟨outcomes, after, hp⟩ :=
      ih (fun x hx => h x (List.mem_cons_of_mem a hx)) (index + 1) between
    exact ⟨_, after, pass_cons_eq_ok_iff.2 ⟨failed, between, outcomes, hs, hp, rfl⟩⟩

/-- Usable rules never fail, and come to one outcome for each rule. -/
theorem trace_of_usable {rules : List Action} (h : ∀ a ∈ rules, a.Usable) (record : Fields) :
    ∃ t, trace record rules = .ok t ∧ t.outcomes.map (·.action) = rules ∧
      t.outcomes.map (·.index) = List.range rules.length := by
  obtain ⟨outcomes, after, hp⟩ := pass_of_usable h 0 record.normalise
  have ht : trace record rules = .ok ⟨after, outcomes⟩ := trace_eq_ok_iff.2 hp
  exact ⟨_, ht, trace_reports ht⟩

/-! ## Fetching -/

/-- Recording events one after another always succeeds. -/
theorem Logged.result_recordAll {α : Type} (event : α → Event) (xs : List α) :
    (forIn (m := Logged) xs PUnit.unit fun x _ => do
      Logged.record (event x)
      pure (ForInStep.yield PUnit.unit)).result = .ok PUnit.unit := by
  induction xs with
  | nil => rfl
  | cons x xs ih =>
    rw [List.forIn_cons, Logged.result_bind]
    exact ih

/-- What carrying out a request comes to: the client's record, with the rules applied to it. -/
theorem Request.carryOut_result (r : Request) (client : Client) :
    (r.carryOut client).result = (client r).bind fun record =>
      ((trace record r.endpoint.actions).mapError .pattern).map (·.fields) := by
  unfold Request.carryOut
  simp only [Logged.result_bind, Logged.silent]
  cases client r with
  | error f => rfl
  | ok record =>
    cases ht : trace record r.endpoint.actions with
    | error p => simp only [Except.bind, ht, mapError_error, Except.map]
    | ok t =>
      simp only [Except.bind, ht, mapError_ok, Except.map, Logged.result_recordAll]
      rfl

/-- The request that a client gets for an endpoint while the catalogue is bound on the log. -/
def Request.forCatalogue (e : Endpoint) (catalogue : String) (query : Value) (bound : Bindings) :
    Request :=
  ⟨e, query, bound.bind [("catalogue", .text catalogue)]⟩

/-- What fetching a record comes to: the lookup, the client, and the rules, one after another. -/
theorem fetch_result (client : Client) (catalogue : String) (query : Value) (bound : Bindings)
    (d : Logged Definition) :
    (fetch client catalogue query bound d).outcome.result =
      d.result.bind fun definition => (definition.endpoint? catalogue).bind fun
        | none => .ok none
        | some e =>
          (client (.forCatalogue e catalogue query bound)).bind fun record =>
            ((trace record e.actions).mapError .pattern).map fun t => some t.fields := by
  have hl : ((d.andThen (·.askEndpoint catalogue)).within bound).result =
      d.result.bind fun definition => definition.endpoint? catalogue := by
    show (d >>= (·.askEndpoint catalogue)).result = _
    rw [Logged.result_bind]
    congr 1
    funext definition
    exact definition.askEndpoint_result catalogue
  unfold fetch
  simp only [hl]
  cases d.result with
  | error f => rfl
  | ok definition =>
    simp only [Except.bind]
    cases definition.endpoint? catalogue with
    | error f => rfl
    | ok e? =>
      cases e? with
      | none => rfl
      | some e =>
        have hc := (Request.forCatalogue e catalogue query bound).carryOut_result client
        simp only [withBindings, Logged.within]
        unfold Request.forCatalogue at hc ⊢
        rw [hc]
        cases client _ with
        | error f => rfl
        | ok record =>
          simp only [Except.bind]
          cases trace record e.actions <;> rfl

/-- An endpoint that a definition gives was resolved from an entry of the definition. -/
theorem Definition.ofEntry_of_endpoint? {d : Definition} {name : String} {e : Endpoint}
    (h : d.endpoint? name = .ok (some e)) : ∃ fields, Endpoint.ofEntry fields = .ok e := by
  unfold Definition.endpoint? at h
  split at h
  · cases h
  · rename_i entry _
    obtain ⟨e', he, hs⟩ := map_eq_ok_iff.1 h
    cases hs
    exact ⟨entry.fields, he⟩

/-- **Rules that resolve never fail.**  The rules of an endpoint that an entry resolves to apply to
every record, with one outcome for each rule, in order; so that fetching a record fails exactly where
there is no definition, the entry does not resolve, or the client fails. -/
theorem resolved_rules_apply :
    (∀ (fields : Entries) (e : Endpoint), Endpoint.ofEntry fields = .ok e → ∀ record : Fields,
      ∃ t, trace record e.actions = .ok t ∧ t.outcomes.map (·.action) = e.actions ∧
        t.outcomes.map (·.index) = List.range e.actions.length) ∧
    (∀ (client : Client) (catalogue : String) (query : Value) (bound : Bindings)
      (d : Logged Definition) (f : Failure),
      (fetch client catalogue query bound d).outcome.result = .error f ↔
        d.result = .error f ∨
        ∃ definition, d.result = .ok definition ∧
          (definition.endpoint? catalogue = .error f ∨
            ∃ e, definition.endpoint? catalogue = .ok (some e) ∧
              client (.forCatalogue e catalogue query bound) = .error f)) := by
  refine ⟨fun fields e h record => trace_of_usable (Endpoint.usable_of_ofEntry h) record, ?_⟩
  intro client catalogue query bound d f
  rw [fetch_result]
  cases d.result with
  | error f' => simp [Except.bind]
  | ok definition =>
    cases he : definition.endpoint? catalogue with
    | error f' => simp [Except.bind, he]
    | ok e? =>
      cases e? with
      | none => simp [Except.bind, he]
      | some e =>
        cases hc : client (.forCatalogue e catalogue query bound) with
        | error f' => simp [Except.bind, he, hc]
        | ok record =>
          obtain ⟨fields, hf⟩ := Definition.ofEntry_of_endpoint? he
          obtain ⟨t, ht, _⟩ := trace_of_usable (Endpoint.usable_of_ofEntry hf) record
          simp [Except.bind, he, hc, ht, mapError_ok, Except.map]

/-- An entry with a range that is one only when its open box has become a space. -/
def rangeFromSpace : Entries :=
  let condition : Value := .map [(.text "tag", .text "002@"), (.text "value", .text "[␣-!]")]
  [(.text "title", .text "GBV"),
    (.text "config", .map [(.text "address", .text "sru.gbv.de"), (.text "database", .text "2.1"),
      (.text "port", .int 80)]),
    (.text "beautify", .map [(.text "setvalue", .list [.map [(.text "tag", .text "036E"),
      (.text "value", .text "A␣B"), (.text "condition", .list [condition])]])])]

theorem rangeFromSpace_applies :
    ∃ e, Endpoint.ofEntry rangeFromSpace = .ok e ∧ e.actions.length = 1 ∧
      ∀ record : Fields, ∃ t, trace record e.actions = .ok t ∧
        t.outcomes.map (·.action) = e.actions ∧
        t.outcomes.map (·.index) = List.range e.actions.length := by
  have hone : (Endpoint.ofEntry rangeFromSpace).toOption.map (·.actions.length) = some 1 := by
    decide +kernel
  cases he : Endpoint.ofEntry rangeFromSpace with
  | error f =>
    rw [he] at hone
    cases hone
  | ok e =>
    rw [he] at hone
    exact ⟨e, rfl, Option.some.inj hone, resolved_rules_apply.1 rangeFromSpace e he⟩

end LibraryCatalogue
