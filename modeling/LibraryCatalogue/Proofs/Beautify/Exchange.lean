import LibraryCatalogue.Proofs.Beautify.Reads
import Mathlib.Data.List.Nodup

/-!
# Rules that may change places

The order of two rules that stand next to each other matters only where they write the same field, or
where one of them reads what the other writes.  Otherwise each is decided by the same fields in both
orders, their writes go past each other, and the rules after them cannot tell the difference.

* `Independent` — two rules write different fields, and neither reads what the other writes;
* `Fields.Same` — two records hold the same, in whatever order of their fields;
* `Action.leave_leave_same` — the two rules leave the same, whether they are applied or not;
* `pass_pair`, `pass_exchange` — a row of rules from these two on, and the two orders beside each
  other;
* `independent_rules_commute` — all of it together, for passes over a record.
-/

namespace LibraryCatalogue

open Results

/-- Two rules write different fields, and no condition of either reads what the other writes. -/
structure Independent (a b : Action) : Prop where
  keys_ne : a.key ≠ b.key
  unread : ∀ c ∈ b.conditions, c.key ≠ a.key
  unread_back : ∀ c ∈ a.conditions, c.key ≠ b.key

/-! ## Records that hold the same -/

namespace Fields

/-- Two records hold the same under every key. -/
def Same (first second : Fields) : Prop :=
  ∀ k, first.lookup k = second.lookup k

namespace Same

variable {first second : Fields}

theorem readAlike (h : Same first second) (rules : List Action) : ReadAlike rules first second := by
  intro a _ c _
  rw [get?, get?, h]

theorem writeAll (h : Same first second) (writes : List (FieldKey × Option String)) :
    Same (writeAll writes first) (writeAll writes second) := by
  intro k
  rw [lookup_writeAll, lookup_writeAll, h]

/-- Records that hold the same and have each field once differ in the order of their fields only. -/
theorem perm (h : Same first second) (hfirst : first.keys.Nodup) (hsecond : second.keys.Nodup) :
    first.Perm second := by
  rw [List.perm_ext_iff_of_nodup (List.Nodup.of_map _ hfirst) (List.Nodup.of_map _ hsecond)]
  rintro ⟨k, v⟩
  rw [mem_iff_lookup hfirst, mem_iff_lookup hsecond, h]

end Same

end Fields

/-! ## Two rules in both orders -/

/-- What a rule leaves is decided alike by conditions that do not read what it writes. -/
theorem firstFailed_leave {conditions : List Condition} {a : Action}
    (h : ∀ c ∈ conditions, c.key ≠ a.key) (failed : Option Condition) (fields : Fields) :
    firstFailed (a.leave failed fields) conditions = firstFailed fields conditions := by
  apply firstFailed_congr
  intro c hc
  rw [Fields.get?, Fields.get?, a.lookup_leave, if_neg fun hkey => h c hc hkey.2]

/-- **Rules that write different fields leave the same in both orders**, whether they are applied or
not. -/
theorem Action.leave_leave_same {a b : Action} (h : a.key ≠ b.key) (failed failed' : Option Condition)
    (fields : Fields) : Fields.Same (b.leave failed' (a.leave failed fields))
      (a.leave failed (b.leave failed' fields)) := by
  intro k
  simp only [Action.lookup_leave]
  by_cases ha : k = a.key
  · have hb : k ≠ b.key := fun hb => h (ha.symm.trans hb)
    simp [hb]
  · simp [ha]

/-- A row of rules from two on of which the second does not read what the first writes: both are
decided by the record before them. -/
theorem pass_pair {a b : Action} (h : ∀ c ∈ b.conditions, c.key ≠ a.key) (index : Nat)
    (fields : Fields) (rest : List Action) :
    pass index fields (a :: b :: rest) =
      firstFailed fields a.conditions >>= fun failed =>
        firstFailed fields b.conditions >>= fun failed' =>
          (pass (index + 2) (b.leave failed' (a.leave failed fields)) rest).map fun p =>
            (⟨index, a, failed⟩ :: ⟨index + 1, b, failed'⟩ :: p.1, p.2) := by
  rw [pass_cons_eq]
  cases firstFailed fields a.conditions with
  | error r => rfl
  | ok failed =>
    simp only [bind, Except.bind]
    rw [pass_cons_eq, firstFailed_leave h]
    cases firstFailed fields b.conditions with
    | error r => rfl
    | ok failed' =>
      simp only [bind, Except.bind]
      cases pass (index + 2) (b.leave failed' (a.leave failed fields)) rest <;> rfl

/-- Two independent rules in both orders, with the rules after them. -/
theorem pass_exchange {a b : Action} (h : Independent a b) (index : Nat) (fields : Fields)
    (rest : List Action) :
    (∃ failed failed' later after after',
        pass index fields (a :: b :: rest) =
          .ok (⟨index, a, failed⟩ :: ⟨index + 1, b, failed'⟩ :: later, after) ∧
        pass index fields (b :: a :: rest) =
          .ok (⟨index, b, failed'⟩ :: ⟨index + 1, a, failed⟩ :: later, after') ∧
        after.Same after') ∨
      ∃ p q, pass index fields (a :: b :: rest) = .error p ∧
        pass index fields (b :: a :: rest) = .error q ∧
        (p = q ∨ firstFailed fields a.conditions = .error p ∧
          firstFailed fields b.conditions = .error q) := by
  rw [pass_pair h.unread, pass_pair h.unread_back]
  cases firstFailed fields a.conditions with
  | error p =>
    cases firstFailed fields b.conditions with
    | error q => exact Or.inr ⟨p, q, rfl, rfl, Or.inr ⟨rfl, rfl⟩⟩
    | ok failed' => exact Or.inr ⟨p, p, rfl, rfl, Or.inl rfl⟩
  | ok failed =>
    cases firstFailed fields b.conditions with
    | error q => exact Or.inr ⟨q, q, rfl, rfl, Or.inl rfl⟩
    | ok failed' =>
      -- The rules after the two find records that hold the same.
      have hsame := Action.leave_leave_same h.keys_ne failed failed' fields
      simp only [bind, Except.bind]
      rcases map_eq_map_iff.1 (pass_congr (hsame.readAlike rest) (index + 2)) with
        ⟨⟨later, after⟩, ⟨_, after'⟩, hp, hq, heq⟩ | ⟨r, hp, hq⟩
      · cases heq
        refine Or.inl ⟨failed, failed', later, after, after', ?_, ?_, ?_⟩
        · rw [hp]
          rfl
        · rw [hq]
          rfl
        · rw [pass_fields hp, pass_fields hq]
          exact hsame.writeAll _
      · exact Or.inr ⟨r, r, map_eq_error_iff.2 hp, map_eq_error_iff.2 hq, Or.inl rfl⟩

/-- A pass over a record whose first rules came to an end goes on from what these left. -/
theorem trace_append_of_pass {record between : Fields} {before : List Action}
    {earlier : List Outcome} (h : pass 0 record.normalise before = .ok (earlier, between))
    (rest : List Action) : trace record (before ++ rest) =
      (pass before.length between rest).map fun p => ⟨p.2, earlier ++ p.1⟩ := by
  rw [trace_eq, pass_append, h, Nat.zero_add]
  simp only [bind, Except.bind]
  cases pass before.length between rest <;> rfl

/-! ## The result -/

/-- Two passes that come to the same, but for two rules that changed places in the reports. -/
structure Exchanged (place : Nat) (a b : Action) (t u : Trace) : Prop where
  /-- The same fields, each of them once, with the same values. -/
  fields : t.fields.Perm u.fields
  values : t.fields.Same u.fields
  /-- The same reports, but for the places of the two. -/
  outcomes : ∃ earlier failed failed' later, earlier.length = place ∧
    t.outcomes = earlier ++ ⟨place, a, failed⟩ :: ⟨place + 1, b, failed'⟩ :: later ∧
    u.outcomes = earlier ++ ⟨place, b, failed'⟩ :: ⟨place + 1, a, failed⟩ :: later

/-- **Independent adjacent rules commute.**  Where two rules that stand next to each other write
different fields and neither reads what the other writes, they may change places: a pass comes to an
end in both orders or in neither; where it does, it leaves the same fields and reports the same, the
two rules in changed places; and where it does not, it fails alike, unless neither of the two rules
can be evaluated on what the rules before them left. -/
theorem independent_rules_commute {a b : Action} (h : Independent a b) (record : Fields)
    (before after : List Action) :
    (∃ t u, trace record (before ++ a :: b :: after) = .ok t ∧
        trace record (before ++ b :: a :: after) = .ok u ∧
        Exchanged before.length a b t u) ∨
      ∃ p q, trace record (before ++ a :: b :: after) = .error p ∧
        trace record (before ++ b :: a :: after) = .error q ∧
        (p = q ∨ ∃ between, applyRules record before = .ok between ∧
          firstFailed between a.conditions = .error p ∧
          firstFailed between b.conditions = .error q) := by
  cases hbefore : pass 0 record.normalise before with
  | error r =>
    have hall : ∀ rest, trace record (before ++ rest) = .error r := by
      intro rest
      rw [trace_eq_error_iff, pass_append, hbefore]
      rfl
    exact Or.inr ⟨r, r, hall _, hall _, Or.inl rfl⟩
  | ok s =>
    obtain ⟨earlier, between⟩ := s
    have hlength : earlier.length = before.length := by
      rw [← (pass_reports hbefore).1, List.length_map]
    rw [trace_append_of_pass hbefore, trace_append_of_pass hbefore]
    rcases pass_exchange h before.length between after with
      ⟨failed, failed', later, left, right, hleft, hright, hsame⟩ | ⟨p, q, hleft, hright, hwhy⟩
    · have hnormal := normal_of_pass record.normal_normalise hbefore
      have hperm := hsame.perm (normal_of_pass hnormal hleft).nodup
        (normal_of_pass hnormal hright).nodup
      rw [hleft, hright]
      exact Or.inl ⟨_, _, rfl, rfl, hperm, hsame, earlier, failed, failed', later, hlength, rfl, rfl⟩
    · have hearlier : trace record before = .ok ⟨between, earlier⟩ := trace_eq_ok_iff.2 hbefore
      have hrecord : applyRules record before = .ok between := applyRules_of_trace hearlier
      rw [hleft, hright]
      exact Or.inr ⟨p, q, rfl, rfl, hwhy.imp id fun hboth => ⟨between, hrecord, hboth⟩⟩

/-- A record of a score. -/
def score : Fields :=
  [(⟨"002@", none⟩, some "Mau"), (⟨"021A", some "a"⟩, some "Fuge")]

/-- A rule that adds a series. -/
def seriesRule : Action :=
  ⟨"036E", some "a", "Reihe␣1", .replace, [⟨"002@", none, "Ma.", .wholeMatch⟩]⟩

/-- A rule that adds a shelf mark. -/
def shelfRule : Action :=
  ⟨"209A", some "", "M␣1", .replace, [⟨"010@", none, "ger", .wholeMatch⟩]⟩

/-- A rule before the two, which one of them reads. -/
def languageRule : Action :=
  ⟨"010@", none, "ger", .replace, []⟩

/-- A rule after the two, which reads both. -/
def noteRule : Action :=
  ⟨"220B", none, "Noten", .replace,
    [⟨"036E", some "a", "Reihe.*", .wholeMatch⟩, ⟨"209A", none, "M␣1", .wholeMatch⟩]⟩

/-- The two orders add their fields in different places of the record. -/
theorem independent_rules_commute_score :
    Independent seriesRule shelfRule ∧
      ∃ t u, trace score [languageRule, seriesRule, shelfRule, noteRule] = .ok t ∧
        trace score [languageRule, shelfRule, seriesRule, noteRule] = .ok u ∧
        t.outcomes.map (·.applied) = [true, true, true, true] ∧
        Exchanged 1 seriesRule shelfRule t u := by
  have hfree : Independent seriesRule shelfRule := ⟨by decide, by decide, by decide⟩
  have happlied : (trace score [languageRule, seriesRule, shelfRule, noteRule]).toOption.map
      (·.outcomes.map (·.applied)) = some [true, true, true, true] := by decide +kernel
  obtain ⟨s, hs, happlied⟩ := toOption_map_eq_some_iff.1 happlied
  refine ⟨hfree, ?_⟩
  rcases independent_rules_commute hfree score [languageRule] [noteRule] with
    ⟨t, u, ht, hu, h⟩ | ⟨p, q, hp, _⟩
  · cases hs.symm.trans ht
    exact ⟨s, u, hs, hu, happlied, h⟩
  · cases hs.symm.trans hp

end LibraryCatalogue
