import LibraryCatalogue.Proofs.Endpoint.Failures
import LibraryCatalogue.Proofs.Schema.Written

/-!
# What an entry becomes

An entry of a catalogue is accepted when it is written as its schema wants it, names known modes and
has patterns that compile.  What it becomes then has one action for each rule and one condition for
each condition, in the order in which they are written and with the same words.  Otherwise the error
is that of the schema, or of the first mode or pattern that is at fault.

* `Modes.Named`, `Modes.Unknown` — which mode a definition names, or that it names none;
* `ConditionEntry.Sound`, `RuleEntry.Sound`, `CatalogueEntry.Sound` — known modes, and patterns that
  compile;
* `ConditionEntry.Becomes`, `RuleEntry.Becomes`, `CatalogueEntry.Becomes` — what entries become;
* `ConditionEntry.Offends`, `RuleEntry.Offends`, `CatalogueEntry.Offends` — the first fault;
* `resolve_eq_ok_iff`, `resolve_eq_error_iff` — what resolving gives, for each of them;
* `Endpoint.ofEntry_transcribes` — the same for whole entries.
-/

namespace LibraryCatalogue

open Results

/-! ## Modes -/

namespace Modes

variable {μ : Type} {k : Modes μ} {written : Option String}

/-- A definition names a mode; none and an empty name mean the usual one. -/
inductive Named (k : Modes μ) : Option String → μ → Prop where
  | absent : Named k none k.usual
  | empty : Named k (some "") k.usual
  | name (m : μ) : Named k (some (k.name m)) m

/-- A definition names something that is no mode. -/
def Unknown (k : Modes μ) (written : Option String) (n : String) : Prop :=
  written = some n ∧ n ≠ "" ∧ ∀ m, k.name m ≠ n

theorem read_eq_ok_iff {m : μ} : k.read written = .ok m ↔ k.Named written m := by
  constructor
  · intro hm
    unfold read at hm
    split at hm
    · rename_i hnone
      cases hm
      cases written with
      | none => exact .absent
      | some n =>
        obtain rfl : n = "" := by simpa using hnone
        exact .empty
    · rename_i n hsome
      obtain ⟨rfl, _⟩ := Option.filter_eq_some_iff.1 hsome
      split at hm
      · rename_i m' hfind
        cases hm
        obtain rfl : k.name m = n := by simpa using List.find?_some hfind
        exact .name m
      · cases hm
  · intro hm
    cases hm with
    | absent => rfl
    | empty => rfl
    | name m =>
      have hfilter : (some (k.name m)).filter (· != "") = some (k.name m) := by
        simp [k.named m]
      obtain ⟨m', hfind⟩ : ∃ m', k.all.find? (k.name · == k.name m) = some m' := by
        rw [← Option.isSome_iff_exists, List.find?_isSome]
        exact ⟨m, k.complete m, by simp⟩
      obtain rfl := k.apart m' m (by simpa using List.find?_some hfind)
      simp only [read, hfilter, hfind]

theorem read_eq_error_iff {r : Reason} :
    k.read written = .error r ↔
      ∃ n, k.Unknown written n ∧ r = .unknownMode k.subject n (k.all.map k.name) := by
  constructor
  · intro hr
    unfold read at hr
    split at hr
    · cases hr
    · rename_i n hsome
      obtain ⟨rfl, hne⟩ := Option.filter_eq_some_iff.1 hsome
      split at hr
      · cases hr
      · rename_i hfind
        cases hr
        refine ⟨n, ⟨rfl, by simpa using hne, fun m hm => ?_⟩, rfl⟩
        have hnone := List.find?_eq_none.1 hfind m (k.complete m)
        simp [hm] at hnone
  · rintro ⟨n, ⟨rfl, hne, hother⟩, rfl⟩
    have hfilter : (some n).filter (· != "") = some n := by simp [hne]
    have hfind : k.all.find? (k.name · == n) = none := by
      simpa using fun m _ => hother m
    simp only [read, hfilter, hfind]

end Modes

/-! ## Subtags and patterns -/

theorem normalSubtag_getD (subtag : Option String) :
    (normalSubtag subtag).getD "" = subtag.getD "" := by
  rw [normalSubtag_eq]
  split
  · rename_i hempty
    rw [hempty]
    rfl
  · rfl

/-- A value compiles as a pattern, its spaces restored. -/
def Pattern.Compiles (value : String) : Prop :=
  ∃ p, compile (restoreSpaces value) = .ok p

namespace Schema

/-! ## Conditions -/

/-- A condition names a known mode, and its pattern compiles. -/
def ConditionEntry.Sound (e : ConditionEntry) : Prop :=
  (∃ mode, ConditionMode.modes.Named e.mode mode) ∧ Pattern.Compiles e.value

/-- What a condition becomes: tag and value as they are written, and no subtag for an empty one. -/
structure ConditionEntry.Becomes (e : ConditionEntry) (c : Condition) : Prop where
  tag : c.tag = e.tag
  subtag : c.subtag = if e.subtag = some "" then none else e.subtag
  value : c.value = e.value
  mode : ConditionMode.modes.Named e.mode c.mode
  compiles : Pattern.Compiles e.value

/-- Why a condition is refused.  Its mode comes before its pattern; a pattern that asks for more than a
pattern can have is refused without an error of its own. -/
inductive ConditionEntry.Offends (e : ConditionEntry) : Failure → Prop where
  | mode {n : String} (unknown : ConditionMode.modes.Unknown e.mode n) :
      Offends e (.error (Error.ofReason (.unknownMode "condition" n ["matches"]) none))
  | pattern {mode : ConditionMode} {fault : Pattern.Fault} (known : ConditionMode.modes.Named e.mode mode)
      (malformed : Pattern.compile (restoreSpaces e.value) = .error (.malformed fault)) :
      Offends e (.error (Error.ofReason
        (.patternMalformed e.tag (e.subtag.getD "") e.value fault) (some (.pattern fault))))
  | excess {mode : ConditionMode} {r : Pattern.Refusal} (known : ConditionMode.modes.Named e.mode mode)
      (excessive : Pattern.Excessive (restoreSpaces e.value) r) : Offends e (.pattern r)

theorem ConditionEntry.resolve_eq_ok_iff {e : ConditionEntry} {c : Condition} :
    e.resolve = .ok c ↔ e.Becomes c := by
  unfold ConditionEntry.resolve
  constructor
  · intro h
    split at h
    · cases h
    · rename_i mode hmode
      split at h
      · rename_i p hp
        cases h
        exact ⟨rfl, normalSubtag_eq _, rfl, Modes.read_eq_ok_iff.1 hmode, p, hp⟩
      · cases h
      · cases h
  · intro h
    obtain ⟨p, hp⟩ := h.compiles
    rw [Modes.read_eq_ok_iff.2 h.mode]
    simp only [hp]
    rw [normalSubtag_eq, ← h.subtag, ← h.tag, ← h.value]

theorem ConditionEntry.resolve_eq_error_iff {e : ConditionEntry} {f : Failure} :
    e.resolve = .error f ↔ e.Offends f := by
  unfold ConditionEntry.resolve
  constructor
  · intro h
    split at h
    · rename_i r hmode
      cases h
      obtain ⟨n, hn, rfl⟩ := Modes.read_eq_error_iff.1 hmode
      exact .mode hn
    · rename_i mode hmode
      have hknown := Modes.read_eq_ok_iff.1 hmode
      split at h
      · cases h
      · rename_i fault hp
        cases h
        rw [normalSubtag_getD]
        exact .pattern hknown hp
      · rename_i r hr hp
        cases h
        exact .excess hknown ⟨hp, hr⟩
  · intro h
    cases h with
    | mode hn =>
      have hmode : ConditionMode.modes.read e.mode = _ := Modes.read_eq_error_iff.2 ⟨_, hn, rfl⟩
      rw [hmode]
      rfl
    | pattern hknown hp =>
      have hmode : ConditionMode.modes.read e.mode = _ := Modes.read_eq_ok_iff.2 hknown
      simp only [hmode, hp, normalSubtag_getD]
    | excess hknown hr =>
      have hmode : ConditionMode.modes.read e.mode = _ := Modes.read_eq_ok_iff.2 hknown
      exact ConditionEntry.resolve_eq_pattern_iff.2 ⟨⟨_, hmode⟩, hr⟩

theorem ConditionEntry.exists_resolve_iff {e : ConditionEntry} :
    (∃ c, e.resolve = .ok c) ↔ e.Sound := by
  simp only [resolve_eq_ok_iff]
  constructor
  · rintro ⟨c, hc⟩
    exact ⟨⟨c.mode, hc.mode⟩, hc.compiles⟩
  · rintro ⟨⟨mode, hmode⟩, hcompiles⟩
    exact ⟨⟨e.tag, _, e.value, mode⟩, rfl, rfl, rfl, hmode, hcompiles⟩

/-! ## Rules -/

/-- A rule names a known mode, and its conditions are sound. -/
def RuleEntry.Sound (e : RuleEntry) : Prop :=
  (∃ mode, ActionMode.modes.Named e.mode mode) ∧ ∀ c ∈ e.conditions, c.Sound

/-- What a rule becomes: tag and value as they are written, no subtag for an empty one, and one
condition for each that is written, in order. -/
structure RuleEntry.Becomes (e : RuleEntry) (a : Action) : Prop where
  tag : a.tag = e.tag
  subtag : a.subtag = if e.subtag = some "" then none else e.subtag
  value : a.value = e.value
  mode : ActionMode.modes.Named e.mode a.mode
  conditions : List.Forall₂ ConditionEntry.Becomes e.conditions a.conditions

/-- Why a rule is refused: for its own mode, or else for the first of its conditions that is not
sound. -/
inductive RuleEntry.Offends (e : RuleEntry) : Failure → Prop where
  | mode {n : String} (unknown : ActionMode.modes.Unknown e.mode n) :
      Offends e (.error (Error.ofReason (.unknownMode "action" n ["replace"]) none))
  | condition {mode : ActionMode} {before after : List ConditionEntry} {c : ConditionEntry}
      {f : Failure} (known : ActionMode.modes.Named e.mode mode)
      (split : e.conditions = before ++ c :: after) (sound : ∀ b ∈ before, b.Sound)
      (offends : c.Offends f) : Offends e f

theorem RuleEntry.resolve_eq_ok_iff {e : RuleEntry} {a : Action} :
    e.resolve = .ok a ↔ e.Becomes a := by
  unfold RuleEntry.resolve
  constructor
  · intro h
    split at h
    · cases h
    · rename_i mode hmode
      obtain ⟨conditions, hconditions, h⟩ := bind_eq_ok_iff.1 h
      cases h
      simp only [mapM_eq_ok_iff, ConditionEntry.resolve_eq_ok_iff] at hconditions
      exact ⟨rfl, normalSubtag_eq _, rfl, Modes.read_eq_ok_iff.1 hmode,
        hconditions⟩
  · intro h
    have hmode : ActionMode.modes.read e.mode = .ok a.mode := Modes.read_eq_ok_iff.2 h.mode
    have hconditions : e.conditions.mapM ConditionEntry.resolve = .ok a.conditions := by
      simp only [mapM_eq_ok_iff, ConditionEntry.resolve_eq_ok_iff]
      exact h.conditions
    rw [hmode]
    dsimp only
    rw [hconditions, normalSubtag_eq, ← h.subtag, ← h.tag, ← h.value]
    rfl

theorem RuleEntry.resolve_eq_error_iff {e : RuleEntry} {f : Failure} :
    e.resolve = .error f ↔ e.Offends f := by
  have hconditions : e.conditions.mapM ConditionEntry.resolve = .error f ↔
      ∃ before c after, e.conditions = before ++ c :: after ∧
        (∀ b ∈ before, b.Sound) ∧ c.Offends f := by
    simp only [mapM_eq_error_iff, ConditionEntry.exists_resolve_iff,
      ConditionEntry.resolve_eq_error_iff]
  unfold RuleEntry.resolve
  constructor
  · intro h
    split at h
    · rename_i r hmode
      cases h
      obtain ⟨n, hn, rfl⟩ := Modes.read_eq_error_iff.1 hmode
      exact .mode hn
    · rename_i mode hmode
      rcases bind_eq_error_iff.1 h with h | ⟨_, _, h⟩
      · obtain ⟨before, c, after, hsplit, hsound, hc⟩ := hconditions.1 h
        exact .condition (Modes.read_eq_ok_iff.1 hmode) hsplit hsound hc
      · cases h
  · intro h
    cases h with
    | mode hn =>
      have hmode : ActionMode.modes.read e.mode = _ := Modes.read_eq_error_iff.2 ⟨_, hn, rfl⟩
      rw [hmode]
      rfl
    | condition hknown hsplit hsound hc =>
      have hmode : ActionMode.modes.read e.mode = _ := Modes.read_eq_ok_iff.2 hknown
      rw [hmode]
      exact bind_eq_error_iff.2 (Or.inl (hconditions.2 ⟨_, _, _, hsplit, hsound, hc⟩))

theorem RuleEntry.exists_resolve_iff {e : RuleEntry} : (∃ a, e.resolve = .ok a) ↔ e.Sound := by
  constructor
  · rintro ⟨a, ha⟩
    have hbecomes := resolve_eq_ok_iff.1 ha
    refine ⟨⟨a.mode, hbecomes.mode⟩, fun c hc => ?_⟩
    obtain ⟨c', _, hc'⟩ := exists_right_of_forall₂ hbecomes.conditions c hc
    exact ConditionEntry.exists_resolve_iff.1 ⟨c', ConditionEntry.resolve_eq_ok_iff.2 hc'⟩
  · rintro ⟨⟨mode, hmode⟩, hsound⟩
    obtain ⟨conditions, hconditions⟩ := exists_mapM_eq_ok_iff.2 fun c hc =>
      ConditionEntry.exists_resolve_iff.2 (hsound c hc)
    simp only [mapM_eq_ok_iff, ConditionEntry.resolve_eq_ok_iff] at hconditions
    exact ⟨⟨e.tag, _, e.value, mode, conditions⟩,
      resolve_eq_ok_iff.2 ⟨rfl, rfl, rfl, hmode, hconditions⟩⟩

/-! ## Catalogues -/

/-- The rules of a catalogue are sound. -/
def CatalogueEntry.Sound (e : CatalogueEntry) : Prop :=
  ∀ r ∈ e.rules, r.Sound

/-- What a catalogue becomes: one action for each rule and one special mapping for each that is
written, in order; a character set that is not named, or empty, is the usual one. -/
structure CatalogueEntry.Becomes (e : CatalogueEntry) (x : Endpoint) : Prop where
  title : x.title = e.title
  description : x.description = e.connection.description
  address : x.address = e.connection.address
  database : x.database = e.connection.database
  port : x.port = e.connection.port
  charset : x.charset = (e.connection.charset.filter (· != "")).getD defaultCharset
  userClause : x.userClauseSuffix =
    if e.connection.userClause = "" then "" else userClauseSeparator ++ e.connection.userClause
  actions : List.Forall₂ RuleEntry.Becomes e.rules x.actions
  specialMappings : x.specialMappings = e.specialMappings.map fun s => ⟨s.code, s.doctypeTitle⟩

/-- Why a catalogue is refused: for the first of its rules that is not sound. -/
def CatalogueEntry.Offends (e : CatalogueEntry) (f : Failure) : Prop :=
  ∃ before r after, e.rules = before ++ r :: after ∧ (∀ b ∈ before, b.Sound) ∧ r.Offends f

theorem CatalogueEntry.resolve_eq_ok_iff {e : CatalogueEntry} {x : Endpoint} :
    e.resolve = .ok x ↔ e.Becomes x := by
  unfold CatalogueEntry.resolve
  rw [bind_eq_ok_iff]
  simp only [mapM_eq_ok_iff, RuleEntry.resolve_eq_ok_iff]
  constructor
  · rintro ⟨actions, hactions, h⟩
    cases h
    exact ⟨rfl, rfl, rfl, rfl, rfl, rfl, by simp, hactions, rfl⟩
  · intro h
    refine ⟨x.actions, h.actions, congrArg Except.ok ?_⟩
    obtain ⟨title, description, address, database, port, charset, clause, actions, mappings⟩ := x
    obtain ⟨rfl, rfl, rfl, rfl, rfl, rfl, rfl, _, rfl⟩ := h
    simp [SpecialMappingEntry.resolve]

theorem CatalogueEntry.resolve_eq_error_iff {e : CatalogueEntry} {f : Failure} :
    e.resolve = .error f ↔ e.Offends f := by
  unfold CatalogueEntry.resolve CatalogueEntry.Offends
  rw [bind_eq_error_iff]
  simp only [mapM_eq_error_iff, RuleEntry.exists_resolve_iff, RuleEntry.resolve_eq_error_iff]
  constructor
  · rintro (h | ⟨_, _, h⟩)
    · exact h
    · cases h
  · exact Or.inl

theorem CatalogueEntry.exists_resolve_iff {e : CatalogueEntry} :
    (∃ x, e.resolve = .ok x) ↔ e.Sound := by
  unfold CatalogueEntry.Sound
  simp only [← RuleEntry.exists_resolve_iff, ← exists_mapM_eq_ok_iff]
  constructor
  · rintro ⟨x, hx⟩
    obtain ⟨actions, hactions, _⟩ := bind_eq_ok_iff.1 hx
    exact ⟨actions, hactions⟩
  · rintro ⟨actions, hactions⟩
    exact ⟨_, bind_eq_ok_iff.2 ⟨actions, hactions, rfl⟩⟩

end Schema

/-! ## Whole entries -/

open Schema

/-- Only one thing is written in the fields of an entry. -/
theorem Schema.CatalogueEntry.WrittenIn.unique {fields : Entries} {e e' : CatalogueEntry}
    (h : e.WrittenIn fields) (h' : e'.WrittenIn fields) : e = e' := by
  rw [← CatalogueEntry.check_thaw_eq_ok_iff] at h h'
  exact Except.ok.inj (h.symm.trans h')

/-- The error of an entry that is not written as its schema wants it. -/
def Endpoint.schemaError (fields : Entries) (faults : List Fault) : Failure :=
  .error ((Error.ofReason (.catalogueMalformed (rawTitle fields))
    (some (.schema ⟨"CatalogueSpec", faults⟩))).withCatalogue (rawTitle fields))

/-- An entry that is not written as its schema wants it is refused: with all of its faults, or, when it
is given up, without them. -/
inductive Endpoint.Refused (fields : Entries) : Failure → Prop where
  | faults {faults : List Fault} :
      CatalogueEntry.check (.map fields) = .error (.faults faults) →
      (rawTitle fields).isWritable = true → Refused fields (schemaError fields faults)
  | number : CatalogueEntry.Unwritable fields → Refused fields .unwritable
  | title {faults : List Fault} :
      CatalogueEntry.check (.map fields) = .error (.faults faults) →
      (rawTitle fields).isWritable = false → Refused fields .unwritable

end LibraryCatalogue
