import LibraryCatalogue.Fetch
import LibraryCatalogue.Proofs.Endpoint.Failures

/-!
# Looking titles up

Titles may occur more than once; the first entry with a title is the one that it stands for.

* `First` — the first item with a key, and the lemmas that tie a lookup to it;
* `endpoint?_of_first`, `endpoint?_of_absent` — what a title stands for among the catalogues;
* `Definition.Stands`, `requireDoctype_of_stands` — what a title stands for among the document types;
* `requireDoctype_congr`, `firstWithCode_congr`, `resolve_congr` — what the meaning of a code depends
  on;
* `Definition.HasSpecials`, `specialMappings_eq_iff` — the special mappings of a catalogue;
* `Stands.error_cases` — a malformed document type is a parsing error, or is given up.
-/

namespace LibraryCatalogue

open Results

/-! ## The first with a key -/

section First

variable {α : Type} {key : α → String} {xs : List α} {k : String}

/-- The first item with a key: those before it have other keys. -/
def First (key : α → String) (xs : List α) (k : String) (x : α) : Prop :=
  ∃ before after, xs = before ++ x :: after ∧ key x = k ∧ ∀ y ∈ before, key y ≠ k

theorem find?_key_eq_some_iff {x : α} :
    xs.find? (fun y => key y == k) = some x ↔ First key xs k x := by
  rw [List.find?_eq_some_iff_append]
  constructor
  · rintro ⟨hx, before, after, hs, hb⟩
    exact ⟨before, after, hs, by simpa using hx, fun y hy => by simpa using hb y hy⟩
  · rintro ⟨before, after, hs, hx, hb⟩
    exact ⟨by simpa using hx, before, after, hs, fun y hy => by simpa using hb y hy⟩

theorem find?_key_eq_none_iff :
    xs.find? (fun y => key y == k) = none ↔ ∀ y ∈ xs, key y ≠ k := by
  simp [List.find?_eq_none]

theorem First.unique {x x' : α} (h : First key xs k x) (h' : First key xs k x') : x = x' := by
  have hf := find?_key_eq_some_iff.2 h
  rw [find?_key_eq_some_iff.2 h'] at hf
  exact (Option.some.inj hf).symm

theorem First.not_absent {x : α} (h : First key xs k x) : ¬ ∀ y ∈ xs, key y ≠ k := by
  obtain ⟨before, after, rfl, hk, _⟩ := h
  intro ha
  exact ha x (by simp) hk

theorem first_or_absent (key : α → String) (xs : List α) (k : String) :
    (∃ x, First key xs k x) ∨ ∀ y ∈ xs, key y ≠ k := by
  cases hf : xs.find? (fun y => key y == k) with
  | none => exact Or.inr (find?_key_eq_none_iff.1 hf)
  | some x => exact Or.inl ⟨x, find?_key_eq_some_iff.1 hf⟩

/-- **Every key that is there has a first item.** -/
theorem exists_first_of_mem {x : α} (hx : x ∈ xs) : ∃ y, First key xs (key x) y := by
  rcases first_or_absent key xs (key x) with h | ha
  · exact h
  · exact absurd rfl (ha x hx)

end First

namespace Definition

/-! ## Catalogues -/

theorem endpoint?_of_first {d : Definition} {title : String} {e : Entry}
    (h : First Entry.title d.contents.catalogues title e) :
    d.endpoint? title = (Endpoint.ofEntry e.fields).map some := by
  unfold endpoint? findCatalogue?
  rw [find?_key_eq_some_iff.2 h]

theorem endpoint?_of_absent {d : Definition} {title : String}
    (h : ∀ x ∈ d.contents.catalogues, x.title ≠ title) : d.endpoint? title = .ok none := by
  unfold endpoint? findCatalogue?
  rw [find?_key_eq_none_iff.2 h]

/-- What is recorded of a lookup has no influence on it. -/
theorem askEndpoint_result (d : Definition) (name : String) :
    (d.askEndpoint name).result = d.endpoint? name := by
  unfold askEndpoint
  simp only [Logged.result_bind, Logged.silent]
  cases d.endpoint? name <;> rfl

/-- What is recorded of a check has no influence on it. -/
theorem askCheck_result (d : Definition) : d.askCheck.result = d.check := by
  unfold askCheck
  simp only [Logged.result_bind, Logged.silent]
  cases d.check with
  | error f => rfl
  | ok results =>
    simp only [Except.bind]
    split <;> rfl

/-- What is recorded of a lookup has no influence on the document type that a code means. -/
theorem askMeaning_result (d : Definition) (code catalogue : String) :
    (d.askMeaning code catalogue).result = (d.resolve code catalogue).map (·.doctype?) := by
  unfold askMeaning
  simp only [Logged.result_bind, Logged.silent]
  cases d.resolve code catalogue <;> rfl

/-! ## Document types -/

/-- What a title stands for among the document types: the first entry with it, resolved. -/
def Stands (d : Definition) (title : String) (r : Except Failure DocumentType) : Prop :=
  ∃ e, First Entry.title d.contents.doctypes title e ∧ DocumentType.ofEntry e.fields = r

theorem requireDoctype_of_stands {d : Definition} {title : String}
    {r : Except Failure DocumentType} (h : d.Stands title r) (catalogue : Value) :
    d.requireDoctype title catalogue = r := by
  obtain ⟨e, he, rfl⟩ := h
  unfold requireDoctype doctype? findDoctype?
  rw [find?_key_eq_some_iff.2 he]
  cases hr : DocumentType.ofEntry e.fields with
  | error f =>
    simp only [hr]
    rfl
  | ok t =>
    simp only [hr]
    rfl

theorem requireDoctype_of_absent {d : Definition} {title : String}
    (h : ∀ x ∈ d.contents.doctypes, x.title ≠ title) (catalogue : Value) :
    d.requireDoctype title catalogue = .error (.error (d.notConfigured title catalogue)) := by
  unfold requireDoctype doctype? findDoctype?
  rw [find?_key_eq_none_iff.2 h]
  rfl

theorem stands_or_absent (d : Definition) (title : String) :
    (∃ r, d.Stands title r) ∨ ∀ x ∈ d.contents.doctypes, x.title ≠ title := by
  rcases first_or_absent Entry.title d.contents.doctypes title with ⟨e, he⟩ | ha
  · exact Or.inl ⟨_, e, he, rfl⟩
  · exact Or.inr ha

theorem exists_stands_of_mem {d : Definition} {x : Entry} (hx : x ∈ d.contents.doctypes) :
    ∃ r, d.Stands x.title r := by
  obtain ⟨e, he⟩ := exists_first_of_mem hx
  exact ⟨_, e, he, rfl⟩

/-- The first document type with a title is given up. -/
def DoctypeGivesUp (d : Definition) (title : String) : Prop :=
  ∃ e, First Entry.title d.contents.doctypes title e ∧ DocumentType.GivesUp e.fields

theorem stands_unwritable_iff {d : Definition} {title : String} :
    d.Stands title (.error .unwritable) ↔ d.DoctypeGivesUp title := by
  simp only [Stands, DoctypeGivesUp, DocumentType.ofEntry_eq_unwritable_iff]

/-- **A malformed document type is a parsing error that names it, or is given up.** -/
theorem Stands.error_cases {d : Definition} {title : String} {f : Failure}
    (h : d.Stands title (.error f)) :
    (∃ e, f = .error e ∧ e.kind = .parse) ∨ f = .unwritable ∧ d.DoctypeGivesUp title := by
  obtain ⟨x, hx, he⟩ := h
  rcases DocumentType.ofEntry_error he with ⟨e, rfl, hk, _⟩ | ⟨rfl, hgives⟩
  · exact Or.inl ⟨e, rfl, hk⟩
  · exact Or.inr ⟨rfl, x, hx, hgives⟩

/-! ## What lookups depend on -/

theorem requireDoctype_congr {x y : Definition} (hs : x.source = y.source)
    (hd : ∀ title, x.doctype? title = y.doctype? title) :
    x.requireDoctype = y.requireDoctype := by
  funext title catalogue
  unfold requireDoctype notConfigured
  rw [hs, hd]

theorem firstWithCode_congr {x y : Definition} (h : x.requireDoctype = y.requireDoctype)
    (code : String) (titles : List String) :
    x.firstWithCode code titles = y.firstWithCode code titles := by
  induction titles with
  | nil => rfl
  | cons title rest ih => rw [firstWithCode, firstWithCode, h, ih]

/-- **The meaning of a code depends on the special mappings, on the document types that are referred
to and on the walk over those that are listed only.** -/
theorem resolve_congr {x y : Definition} (h : x.requireDoctype = y.requireDoctype)
    (hm : ∀ catalogue, x.specialMappings catalogue = y.specialMappings catalogue)
    (hw : ∀ code, x.firstWithCode code x.doctypeTitles = y.firstWithCode code y.doctypeTitles)
    (code catalogue : String) : x.resolve code catalogue = y.resolve code catalogue := by
  unfold resolve
  rw [hm, h, hw]

/-! ## Special mappings -/

/-- What the special mappings of a catalogue are: those of its first entry, and none without one. -/
def HasSpecials (d : Definition) (catalogue : String)
    (r : Except Failure (List SpecialMapping)) : Prop :=
  (∃ e, First Entry.title d.contents.catalogues catalogue e ∧ specialMappingsOf e.fields = r) ∨
    ((∀ x ∈ d.contents.catalogues, x.title ≠ catalogue) ∧ r = .ok [])

theorem specialMappings_eq_iff {d : Definition} {catalogue : String}
    {r : Except Failure (List SpecialMapping)} :
    d.specialMappings catalogue = r ↔ d.HasSpecials catalogue r := by
  unfold specialMappings findCatalogue? HasSpecials
  rcases first_or_absent Entry.title d.contents.catalogues catalogue with ⟨e, he⟩ | ha
  · rw [find?_key_eq_some_iff.2 he]
    constructor
    · intro h
      exact Or.inl ⟨e, he, h⟩
    · rintro (⟨e', he', h⟩ | ⟨ha, _⟩)
      · rw [he.unique he']
        exact h
      · exact absurd ha he.not_absent
  · rw [find?_key_eq_none_iff.2 ha]
    constructor
    · intro h
      exact Or.inr ⟨ha, h.symm⟩
    · rintro (⟨e, he, _⟩ | ⟨_, rfl⟩)
      · exact absurd ha he.not_absent
      · rfl

end Definition

end LibraryCatalogue
