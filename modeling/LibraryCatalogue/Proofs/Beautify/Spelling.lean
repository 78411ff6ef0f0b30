import LibraryCatalogue.Proofs.Beautify.Exchange

/-!
# Spellings that do not matter

An empty subtag and no subtag mean the same, and so do an open box and a space in the value of a rule.
Records and rules may be written either way, in one place so and in another place otherwise: keys and
values are brought to one form wherever they are compared or written, so that a pass does the same.
Nor does the order of a record matter, unless several of its keys mean one field.

* `SameSubtag`, `SameValue` — two spellings of a subtag or of a value; these are exactly what the one
  form does not tell apart (`normalSubtag_eq_iff`, `restoreSpaces_eq_iff`);
* `FieldKey.Respelled`, `Condition.Respelled`, `Action.Respelled`, `Fields.Respelled` — the same keys,
  rules and records in another spelling;
* `Outcome.failedAt`, `Verdict` — what is reported of a rule, but for how it is written;
* `firstFailed_respelled`, `pass_respelled` — conditions and rows of rules in two spellings;
* `trace_of_same` — passes over records that hold the same in another order;
* `spelling_never_matters` — all of it together, for passes over a record.
-/

namespace LibraryCatalogue

open Results

/-! ## Spellings -/

/-- Two subtags mean the same: they are the same, or both mean the tag itself. -/
def SameSubtag (s t : Option String) : Prop :=
  s = t ∨ (s = none ∧ t = some "") ∨ (s = some "" ∧ t = none)

/-- Two characters mean the same: they are the same, or one is a space and the other an open box. -/
def SameCharacter (c d : Char) : Prop :=
  c = d ∨ (c = ' ' ∧ d = openBox) ∨ (c = openBox ∧ d = ' ')

/-- Two values mean the same, character by character. -/
def SameValue (v w : String) : Prop :=
  List.Forall₂ SameCharacter v.toList w.toList

theorem normalSubtag_eq_iff {s t : Option String} :
    normalSubtag s = normalSubtag t ↔ SameSubtag s t := by
  rw [normalSubtag_eq, normalSubtag_eq]
  unfold SameSubtag
  split <;> split <;> simp_all [eq_comm]

theorem restoreSpaces_eq_iff {v w : String} :
    restoreSpaces v = restoreSpaces w ↔ SameValue v w := by
  have hcharacter (c d : Char) :
      ((if c == openBox then ' ' else c) = if d == openBox then ' ' else d) ↔
        SameCharacter c d := by
    have hspace : openBox ≠ ' ' := by decide
    unfold SameCharacter
    simp only [beq_iff_eq]
    split <;> split <;> grind
  unfold restoreSpaces SameValue
  rw [String.ofList_inj, ← List.forall₂_eq_eq_eq, List.forall₂_map_left_iff,
    List.forall₂_map_right_iff]
  simp only [hcharacter]

/-- Two keys are spellings of one key. -/
structure FieldKey.Respelled (k l : FieldKey) : Prop where
  tag : k.tag = l.tag
  subtag : SameSubtag k.subtag l.subtag

/-- Two conditions are spellings of one condition. -/
structure Condition.Respelled (c d : Condition) : Prop where
  tag : c.tag = d.tag
  subtag : SameSubtag c.subtag d.subtag
  value : SameValue c.value d.value
  mode : c.mode = d.mode

/-- Two actions are spellings of one action, their conditions one by one included. -/
structure Action.Respelled (a b : Action) : Prop where
  tag : a.tag = b.tag
  subtag : SameSubtag a.subtag b.subtag
  value : SameValue a.value b.value
  mode : a.mode = b.mode
  conditions : List.Forall₂ Condition.Respelled a.conditions b.conditions

/-- Two records have the same values in turn, under spellings of the same keys. -/
def Fields.Respelled (first second : Fields) : Prop :=
  List.Forall₂ (fun e f => e.1.Respelled f.1 ∧ e.2 = f.2) first second

theorem FieldKey.normal_eq_iff {k l : FieldKey} : k.normal = l.normal ↔ k.Respelled l := by
  obtain ⟨tag, subtag⟩ := k
  obtain ⟨tag', subtag'⟩ := l
  simp only [FieldKey.normal, FieldKey.mk.injEq, normalSubtag_eq_iff]
  constructor
  · rintro ⟨htag, hsubtag⟩
    exact ⟨htag, hsubtag⟩
  · rintro ⟨htag, hsubtag⟩
    exact ⟨htag, hsubtag⟩

theorem Condition.Respelled.key_eq {c d : Condition} (h : c.Respelled d) : c.key = d.key :=
  FieldKey.normal_eq_iff.2 ⟨h.tag, h.subtag⟩

theorem Action.Respelled.key_eq {a b : Action} (h : a.Respelled b) : a.key = b.key :=
  FieldKey.normal_eq_iff.2 ⟨h.tag, h.subtag⟩

theorem Condition.Respelled.holds_eq {c d : Condition} (h : c.Respelled d) (fields : Fields) :
    c.holds fields = d.holds fields := by
  have hvalue : c.literalValue = d.literalValue := restoreSpaces_eq_iff.2 h.value
  unfold Condition.holds
  rw [h.mode, h.key_eq, hvalue]

theorem Action.Respelled.write_eq {a b : Action} (h : a.Respelled b) (fields : Fields) :
    a.write fields = b.write fields := by
  have hvalue : a.literalValue = b.literalValue := restoreSpaces_eq_iff.2 h.value
  rw [Action.write_eq, Action.write_eq, h.key_eq, hvalue]

/-- **A record in another spelling is the same record** once its keys are normal. -/
theorem Fields.Respelled.normalise_eq {first second : Fields} (h : first.Respelled second) :
    first.normalise = second.normalise := by
  have hentries : first.map (fun e => (e.1.normal, e.2)) =
      second.map fun e => (e.1.normal, e.2) := by
    rw [← List.forall₂_eq_eq_eq, List.forall₂_map_left_iff, List.forall₂_map_right_iff]
    exact h.imp fun e f hef => Prod.ext (FieldKey.normal_eq_iff.2 hef.1) hef.2
  rw [Fields.normalise_eq_writeAll, Fields.normalise_eq_writeAll, hentries]

/-! ## Reports apart from spellings -/

/-- The place of the condition that failed, among the conditions of the rule. -/
def Outcome.failedAt (o : Outcome) : Option Nat :=
  o.failed.map fun c => o.action.conditions.idxOf c

/-- What is reported of a rule, but for how the rule is written. -/
structure Verdict where
  index : Nat
  applied : Bool
  failedAt : Option Nat
deriving DecidableEq, Repr

/-- What a report says of a rule, but for how the rule is written. -/
def Outcome.verdict (o : Outcome) : Verdict :=
  ⟨o.index, o.applied, o.failedAt⟩

/-- What is reported of some rules on a record, but for how they are written. -/
def verdicts (record : Fields) (rules : List Action) : Except Pattern.Refusal (List Verdict) :=
  (trace record rules).map (·.outcomes.map (·.verdict))

/-! ## Rules in two spellings -/

/-- Behind a condition that is true, the places of those that are false are one higher. -/
theorem firstFailed_places_cons {fields : Fields} {c : Condition}
    (hc : c.holds fields = .ok true) (rest : List Condition) :
    (firstFailed fields rest).map (·.map (c :: rest).idxOf) =
      ((firstFailed fields rest).map (·.map rest.idxOf)).map (·.map Nat.succ) := by
  cases hrest : firstFailed fields rest with
  | error r => rfl
  | ok failed =>
    cases failed with
    | none => rfl
    | some d =>
      obtain ⟨_, _, _, _, hd⟩ := firstFailed_eq_some_iff.1 hrest
      have hne : c ≠ d := by
        rintro rfl
        rw [hc] at hd
        cases hd
      simp only [Except.map, Option.map_some, List.idxOf_cons_ne _ hne]

/-- Of conditions in two spellings the first to fail stands at the same place. -/
theorem firstFailed_respelled {cs ds : List Condition}
    (h : List.Forall₂ Condition.Respelled cs ds) (fields : Fields) :
    (firstFailed fields cs).map (·.map cs.idxOf) = (firstFailed fields ds).map (·.map ds.idxOf) := by
  induction h with
  | nil => rfl
  | @cons c d cs ds hcd _ ih =>
    have hd := hcd.holds_eq fields
    rw [firstFailed, firstFailed, ← hd]
    cases hc : c.holds fields with
    | error r => rfl
    | ok b =>
      cases b with
      | true =>
        simp only [bind, Except.bind, if_true]
        rw [firstFailed_places_cons hc, firstFailed_places_cons (hd ▸ hc), ih]
      | false => simp [bind, Except.bind, pure, Except.pure, Except.map]

/-- **A row of rules in another spelling leaves the same record**, with the same verdicts, and fails
alike where it fails. -/
theorem pass_respelled {rules rules' : List Action} (h : List.Forall₂ Action.Respelled rules rules')
    (index : Nat) (fields : Fields) :
    (pass index fields rules).map (fun p => (p.1.map (·.verdict), p.2)) =
      (pass index fields rules').map fun p => (p.1.map (·.verdict), p.2) := by
  induction h generalizing index fields with
  | nil => rfl
  | @cons a b rest rest' hab _ ih =>
    rw [pass_cons_eq, pass_cons_eq]
    rcases map_eq_map_iff.1 (firstFailed_respelled hab.conditions fields) with
      ⟨failed, failed', hf, hf', hplace⟩ | ⟨r, hf, hf'⟩
    · have hisNone : failed.isNone = failed'.isNone := by
        rw [← Option.isNone_map, hplace, Option.isNone_map]
      -- Both rules write the same or neither writes, so the others start from one record.
      have hleave : a.leave failed fields = b.leave failed' fields := by
        unfold Action.leave
        rw [hisNone, hab.write_eq]
      have hverdict : Outcome.verdict ⟨index, a, failed⟩ = Outcome.verdict ⟨index, b, failed'⟩ := by
        simp only [Outcome.verdict, Outcome.applied, Outcome.failedAt, hisNone, hplace]
      simp only [hf, hf', bind, Except.bind, hleave]
      rcases map_eq_map_iff.1 (ih (index + 1) (b.leave failed' fields)) with
        ⟨p, q, hp, hq, heq⟩ | ⟨r, hp, hq⟩
      · obtain ⟨hlater, hafter⟩ := Prod.mk.inj heq
        simp only [hp, hq, Except.map, List.map_cons, hverdict, hlater, hafter]
      · simp only [hp, hq, Except.map]
    · simp only [hf, hf', bind, Except.bind]

/-- A pass in another spelling. -/
theorem trace_respelled {rules rules' : List Action}
    (hrules : List.Forall₂ Action.Respelled rules rules') {record record' : Fields}
    (hrecord : record.normalise = record'.normalise) :
    applyRules record rules = applyRules record' rules' ∧
      verdicts record rules = verdicts record' rules' := by
  unfold applyRules verdicts
  simp only [trace_eq, hrecord]
  rcases map_eq_map_iff.1 (pass_respelled hrules 0 record'.normalise) with
    ⟨p, q, hp, hq, heq⟩ | ⟨r, hp, hq⟩
  · obtain ⟨hverdicts, hafter⟩ := Prod.mk.inj heq
    simp only [hp, hq, Except.map, hverdicts, hafter, and_self]
  · simp only [hp, hq, Except.map, and_self]

/-! ## Records in another order -/

namespace Fields

theorem Same.of_perm {first second : Fields} (h : first.Perm second) (hnodup : first.keys.Nodup) :
    Same first second := by
  have hnodup' : second.keys.Nodup := (h.map _).nodup_iff.1 hnodup
  intro k
  apply Option.ext
  intro v
  rw [← mem_iff_lookup hnodup, ← mem_iff_lookup hnodup', h.mem_iff]

/-- A record whose keys mean different fields keeps its entries and their order under normal keys. -/
theorem normalise_of_nodup {record : Fields} (h : (record.map (·.1.normal)).Nodup) :
    record.normalise = record.map fun e => (e.1.normal, e.2) := by
  have hspelling : Respelled record (record.map fun e => (e.1.normal, e.2)) := by
    unfold Respelled
    rw [List.forall₂_map_right_iff, List.forall₂_same]
    intro e _
    exact ⟨FieldKey.normal_eq_iff.1 e.1.normal_normal.symm, rfl⟩
  have hkeys : keys (record.map fun e => (e.1.normal, e.2)) = record.map (·.1.normal) := by
    rw [keys, List.map_map]
    rfl
  rw [hspelling.normalise_eq]
  apply normalise_of_normal
  constructor
  · intro k hk
    rw [hkeys] at hk
    obtain ⟨e, _, rfl⟩ := List.mem_map.1 hk
    exact e.1.normal_normal
  · rw [hkeys]
    exact h

/-- **Records in two orders hold the same**, when their keys mean different fields. -/
theorem normalise_same_of_perm {first second : Fields} (h : first.Perm second)
    (hnodup : (first.map (·.1.normal)).Nodup) : Same first.normalise second.normalise := by
  have hnodup' : (second.map (·.1.normal)).Nodup := (h.map _).nodup_iff.1 hnodup
  refine Same.of_perm ?_ first.normal_normalise.nodup
  rw [normalise_of_nodup hnodup, normalise_of_nodup hnodup']
  exact h.map _

end Fields

/-- Passes of the same rules over records that hold the same report the same, and leave records that
hold the same; or both fail alike. -/
theorem trace_of_same {first second : Fields} (h : first.normalise.Same second.normalise)
    (rules : List Action) :
    (∃ t u, trace first rules = .ok t ∧ trace second rules = .ok u ∧ t.outcomes = u.outcomes ∧
        t.fields.Perm u.fields ∧ t.fields.Same u.fields) ∨
      ∃ r, trace first rules = .error r ∧ trace second rules = .error r := by
  rcases map_eq_map_iff.1 (pass_congr (h.readAlike rules) 0) with
    ⟨⟨outcomes, after⟩, ⟨_, after'⟩, hp, hq, heq⟩ | ⟨r, hp, hq⟩
  · cases heq
    have hsame : after.Same after' := by
      rw [pass_fields hp, pass_fields hq]
      exact h.writeAll _
    refine Or.inl ⟨⟨after, outcomes⟩, ⟨after', outcomes⟩, trace_eq_ok_iff.2 hp,
      trace_eq_ok_iff.2 hq, rfl, ?_, hsame⟩
    exact hsame.perm (normal_of_pass first.normal_normalise hp).nodup
      (normal_of_pass second.normal_normalise hq).nodup
  · exact Or.inr ⟨r, trace_eq_error_iff.2 hp, trace_eq_error_iff.2 hq⟩

/-! ## The result -/

/-- Two passes come to records with the same fields and values, in whatever order; or fail alike. -/
def SameUpToOrder (x y : Except Pattern.Refusal Fields) : Prop :=
  (∃ f g, x = .ok f ∧ y = .ok g ∧ f.Perm g ∧ f.Same g) ∨ ∃ r, x = .error r ∧ y = .error r

/-- **Spelling never matters to a pass.**  Where rules are written in another spelling, and the keys of
a record are, in whichever places, applying the rules gives the same record, and each rule is applied
to the one as to the other or fails at the same of its conditions; where a rule cannot be evaluated,
both passes fail alike.  The same holds when the entries of the record come in another order, if its
keys mean different fields; only the order of the fields may then be another. -/
theorem spelling_never_matters {rules rules' : List Action}
    (hrules : List.Forall₂ Action.Respelled rules rules') :
    (∀ record record', Fields.Respelled record record' →
      applyRules record rules = applyRules record' rules' ∧
        verdicts record rules = verdicts record' rules') ∧
    ∀ record between record', Fields.Respelled record between → between.Perm record' →
      (record.map (·.1.normal)).Nodup →
      SameUpToOrder (applyRules record rules) (applyRules record' rules') ∧
        verdicts record rules = verdicts record' rules' := by
  constructor
  · intro record record' hrecord
    exact trace_respelled hrules hrecord.normalise_eq
  · intro record between record' hrecord hperm hnodup
    have hkeys : record.map (·.1.normal) = between.map (·.1.normal) := by
      rw [← List.forall₂_eq_eq_eq, List.forall₂_map_left_iff, List.forall₂_map_right_iff]
      exact hrecord.imp fun e f hef => FieldKey.normal_eq_iff.2 hef.1
    have hsame := Fields.normalise_same_of_perm hperm (hkeys ▸ hnodup)
    rw [← hrecord.normalise_eq] at hsame
    -- First the rules change their spelling, then the record its order.
    obtain ⟨hfields, hverdicts⟩ := trace_respelled hrules (rfl : Fields.normalise record' = _)
    rw [← hfields, ← hverdicts]
    unfold SameUpToOrder applyRules verdicts
    rcases trace_of_same hsame rules with ⟨t, u, ht, hu, houtcomes, hp, hs⟩ | ⟨r, ht, hu⟩
    · simp only [ht, hu, Except.map, houtcomes, and_true]
      exact Or.inl ⟨t.fields, u.fields, rfl, rfl, hp, hs⟩
    · simp only [ht, hu, Except.map, and_true]
      exact Or.inr ⟨r, rfl, rfl⟩

/-- A record of a letter, with a shelf mark that has no value. -/
def letter : Fields :=
  [(⟨"002@", none⟩, some "Hau"), (⟨"021A", some "a"⟩, some "An die Freunde"),
    (⟨"209A", none⟩, none)]

/-- The record with an empty subtag where the tag itself is meant. -/
def letterSpelt : Fields :=
  [(⟨"002@", some ""⟩, some "Hau"), (⟨"021A", some "a"⟩, some "An die Freunde"),
    (⟨"209A", some ""⟩, none)]

/-- The same in another order. -/
def letterShuffled : Fields :=
  [(⟨"209A", some ""⟩, none), (⟨"002@", some ""⟩, some "Hau"),
    (⟨"021A", some "a"⟩, some "An die Freunde")]

/-- Rules of which the first writes what the others read, and the second fails at its last
condition. -/
def letterRules : List Action :=
  [⟨"209A", some "", "H␣1", .replace, [⟨"002@", none, "H.*", .wholeMatch⟩]⟩,
    ⟨"021A", some "a", "Brief", .replace,
      [⟨"209A", none, "H␣[0-9]", .wholeMatch⟩, ⟨"021A", some "a", "An␣den␣.*", .wholeMatch⟩]⟩,
    ⟨"010@", none, "ger", .replace, [⟨"209A", some "", "H 1", .wholeMatch⟩]⟩]

/-- The rules in another spelling: what was written with an empty subtag is written without one, and
the other way round. -/
def letterRulesSpelt : List Action :=
  [⟨"209A", none, "H 1", .replace, [⟨"002@", some "", "H.*", .wholeMatch⟩]⟩,
    ⟨"021A", some "a", "Brief", .replace,
      [⟨"209A", some "", "H [0-9]", .wholeMatch⟩, ⟨"021A", some "a", "An den␣.*", .wholeMatch⟩]⟩,
    ⟨"010@", some "", "ger", .replace, [⟨"209A", none, "H␣1", .wholeMatch⟩]⟩]

theorem spelling_never_matters_letter :
    List.Forall₂ Action.Respelled letterRules letterRulesSpelt ∧
      Fields.Respelled letter letterSpelt ∧ letterSpelt.Perm letterShuffled ∧
      (letter.map (·.1.normal)).Nodup ∧
      applyRules letter letterRules = applyRules letterSpelt letterRulesSpelt ∧
      SameUpToOrder (applyRules letter letterRules) (applyRules letterShuffled letterRulesSpelt) ∧
      verdicts letterShuffled letterRulesSpelt =
        .ok [⟨0, true, none⟩, ⟨1, false, some 1⟩, ⟨2, true, none⟩] := by
  have hsame {s : Option String} : SameSubtag s s := Or.inl rfl
  have hemptied : SameSubtag none (some "") := Or.inr (Or.inl ⟨rfl, rfl⟩)
  have hdropped : SameSubtag (some "") none := Or.inr (Or.inr ⟨rfl, rfl⟩)
  have hvalue {v w : String} (h : restoreSpaces v = restoreSpaces w) : SameValue v w :=
    restoreSpaces_eq_iff.1 h
  have hrules : List.Forall₂ Action.Respelled letterRules letterRulesSpelt := by
    refine .cons ⟨rfl, hdropped, hvalue (by decide), rfl, ?_⟩
      (.cons ⟨rfl, hsame, hvalue rfl, rfl, ?_⟩
        (.cons ⟨rfl, hemptied, hvalue rfl, rfl, ?_⟩ .nil))
    · exact .cons ⟨rfl, hemptied, hvalue rfl, rfl⟩ .nil
    · exact .cons ⟨rfl, hemptied, hvalue (by decide), rfl⟩
        (.cons ⟨rfl, hsame, hvalue (by decide), rfl⟩ .nil)
    · exact .cons ⟨rfl, hdropped, hvalue (by decide), rfl⟩ .nil
  have hrecord : Fields.Respelled letter letterSpelt :=
    .cons ⟨⟨rfl, hemptied⟩, rfl⟩ (.cons ⟨⟨rfl, hsame⟩, rfl⟩ (.cons ⟨⟨rfl, hemptied⟩, rfl⟩ .nil))
  have hperm : letterSpelt.Perm letterShuffled := by decide
  have hnodup : (letter.map (·.1.normal)).Nodup := by decide
  have hverdicts : verdicts letter letterRules =
      .ok [⟨0, true, none⟩, ⟨1, false, some 1⟩, ⟨2, true, none⟩] :=
    toOption_eq_some_iff.1 (by decide +kernel)
  obtain ⟨hspelt, hshuffled⟩ := spelling_never_matters hrules
  obtain ⟨horder, heq⟩ := hshuffled letter letterSpelt letterShuffled hrecord hperm hnodup
  exact ⟨hrules, hrecord, hperm, hnodup, (hspelt letter letterSpelt hrecord).1, horder,
    heq ▸ hverdicts⟩

end LibraryCatalogue
