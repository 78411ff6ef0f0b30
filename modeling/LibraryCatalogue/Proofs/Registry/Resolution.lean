import LibraryCatalogue.Proofs.Definition.Titles
import LibraryCatalogue.Proofs.Endpoint.Specials
import LibraryCatalogue.Proofs.Registry.Lookup

/-!
# What a code means in a catalogue

A code is looked for among the special mappings of the catalogue, and only if none of them has it,
among the document types in document order.

* `Passed`, `walk_cases` — the walk over the document types, which stops at the first that has the
  code or is malformed;
* `Dangles`, `Means` — the meaning of a code, said without the lookup;
* `resolve_eq_of_means`, `exists_means` — the lookup gives that meaning, and there always is one;
* `resolve_iff_means` — the lookup is exactly this, and a title that is not configured can only come
  from a special mapping;
* `overlong_code_escapes` — a malformed document type that is no parsing error.
-/

namespace LibraryCatalogue.Definition

open Results

/-- A walk passes entries whose titles stand for document types without the code. -/
def Passed (d : Definition) (code : String) (entries : List Entry) : Prop :=
  ∀ x ∈ entries, ∃ t, d.Stands x.title (.ok t) ∧ code ∉ t.codes

/-- A code dangles in a catalogue: the first special mapping with it refers to a title that no document
type has. -/
def Dangles (d : Definition) (code catalogue title : String) : Prop :=
  ∃ specials s, d.HasSpecials catalogue (.ok specials) ∧ First SpecialMapping.code specials code s ∧
    s.doctypeTitle = title ∧ ∀ x ∈ d.contents.doctypes, x.title ≠ title

/-- What a code means in a catalogue. -/
inductive Means (d : Definition) (code catalogue : String) : Except Failure Meaning → Prop where
  /-- The special mappings of the catalogue cannot be read. -/
  | unreadable {f : Failure} :
      d.HasSpecials catalogue (.error f) → Means d code catalogue (.error f)
  /-- A special mapping has the code, and its title stands for a document type. -/
  | special {specials : List SpecialMapping} {s : SpecialMapping} {t : DocumentType} :
      d.HasSpecials catalogue (.ok specials) → First SpecialMapping.code specials code s →
      d.Stands s.doctypeTitle (.ok t) → Means d code catalogue (.ok (.special t))
  /-- A special mapping has the code, and its title stands for a malformed entry. -/
  | specialMalformed {specials : List SpecialMapping} {s : SpecialMapping} {f : Failure} :
      d.HasSpecials catalogue (.ok specials) → First SpecialMapping.code specials code s →
      d.Stands s.doctypeTitle (.error f) → Means d code catalogue (.error f)
  /-- A special mapping has the code, and no document type has its title. -/
  | dangling {title : String} :
      d.Dangles code catalogue title →
      Means d code catalogue (.error (.error (d.notConfigured title (.text catalogue))))
  /-- No special mapping has the code, and it belongs to the first document type that has it. -/
  | general {specials : List SpecialMapping} {before after : List Entry} {x : Entry}
      {t : DocumentType} :
      d.HasSpecials catalogue (.ok specials) → (∀ s ∈ specials, s.code ≠ code) →
      d.contents.doctypes = before ++ x :: after → d.Passed code before →
      d.Stands x.title (.ok t) → code ∈ t.codes → Means d code catalogue (.ok (.general t))
  /-- No special mapping has the code, and a malformed document type comes before any that has it. -/
  | malformed {specials : List SpecialMapping} {before after : List Entry} {x : Entry} {f : Failure} :
      d.HasSpecials catalogue (.ok specials) → (∀ s ∈ specials, s.code ≠ code) →
      d.contents.doctypes = before ++ x :: after → d.Passed code before →
      d.Stands x.title (.error f) → Means d code catalogue (.error f)
  /-- Neither a special mapping nor a document type has the code. -/
  | unknown {specials : List SpecialMapping} :
      d.HasSpecials catalogue (.ok specials) → (∀ s ∈ specials, s.code ≠ code) →
      d.Passed code d.contents.doctypes → Means d code catalogue (.ok .unknown)

/-! ## Special mappings -/

/-- The first phase: the document type of the first special mapping with the code. -/
theorem resolve_of_first {d : Definition} {code catalogue : String}
    {specials : List SpecialMapping} {s : SpecialMapping}
    (hs : d.HasSpecials catalogue (.ok specials)) (hf : First SpecialMapping.code specials code s) :
    d.resolve code catalogue = (d.requireDoctype s.doctypeTitle (.text catalogue)).map .special := by
  unfold resolve
  rw [specialMappings_eq_iff.2 hs]
  simp only [bind, Except.bind, find?_key_eq_some_iff.2 hf]
  cases d.requireDoctype s.doctypeTitle (.text catalogue) <;> rfl

/-- The second phase: the walk over the document types, when no special mapping has the code. -/
theorem resolve_of_noSpecial {d : Definition} {code catalogue : String}
    {specials : List SpecialMapping} (hs : d.HasSpecials catalogue (.ok specials))
    (hn : ∀ s ∈ specials, s.code ≠ code) :
    d.resolve code catalogue = (d.firstWithCode code d.doctypeTitles).map fun
      | some t => .general t
      | none => .unknown := by
  unfold resolve
  rw [specialMappings_eq_iff.2 hs]
  simp only [bind, Except.bind, find?_key_eq_none_iff.2 hn]
  cases d.firstWithCode code d.doctypeTitles with
  | error e => rfl
  | ok t? => cases t? <;> rfl

/-! ## The walk over the document types -/

/-- A walk goes on behind the entries that it passes. -/
theorem firstWithCode_of_passed {d : Definition} {code : String} {before : List Entry}
    (hp : d.Passed code before) (rest : List String) :
    d.firstWithCode code (before.map (·.title) ++ rest) = d.firstWithCode code rest := by
  induction before with
  | nil => rfl
  | cons x before ih =>
    obtain ⟨t, ht, hc⟩ := hp x List.mem_cons_self
    have hno : t.hasCode code = false := by simpa [DocumentType.hasCode] using hc
    rw [List.map_cons, List.cons_append, firstWithCode, requireDoctype_of_stands ht]
    simp only [bind, Except.bind, hno]
    exact ih fun y hy => hp y (List.mem_cons_of_mem x hy)

/-- A walk stops at a document type that has the code. -/
theorem firstWithCode_of_found {d : Definition} {code title : String} {t : DocumentType}
    (ht : d.Stands title (.ok t)) (hc : code ∈ t.codes) (rest : List String) :
    d.firstWithCode code (title :: rest) = .ok (some t) := by
  have hyes : t.hasCode code = true := by simpa [DocumentType.hasCode] using hc
  rw [firstWithCode, requireDoctype_of_stands ht]
  simp only [bind, Except.bind, hyes]
  rfl

/-- A walk stops at a malformed document type. -/
theorem firstWithCode_of_malformed {d : Definition} {code title : String} {f : Failure}
    (hf : d.Stands title (.error f)) (rest : List String) :
    d.firstWithCode code (title :: rest) = .error f := by
  rw [firstWithCode, requireDoctype_of_stands hf]
  rfl

/-- **All that a walk over entries of a definition can come to.**  It never meets a title that is not
configured, since every listed title stands for an entry. -/
theorem walk_cases {d : Definition} (code : String) (entries : List Entry)
    (hm : ∀ x ∈ entries, x ∈ d.contents.doctypes) :
    (∃ before x after r, entries = before ++ x :: after ∧ d.Passed code before ∧
        d.Stands x.title r ∧ ((∃ t, r = .ok t ∧ code ∈ t.codes) ∨ ∃ f, r = .error f)) ∨
      d.Passed code entries := by
  induction entries with
  | nil => exact Or.inr fun x hx => by cases hx
  | cons x entries ih =>
    -- The walk asks for the title of x, which may stand for an entry before x.
    obtain ⟨r, hr⟩ := exists_stands_of_mem (hm x List.mem_cons_self)
    have hempty : d.Passed code [] := fun y hy => by cases hy
    cases r with
    | error e =>
      exact Or.inl ⟨[], x, entries, _, rfl, hempty, hr, Or.inr ⟨e, rfl⟩⟩
    | ok t =>
      by_cases hc : code ∈ t.codes
      · exact Or.inl ⟨[], x, entries, _, rfl, hempty, hr, Or.inl ⟨t, rfl, hc⟩⟩
      · have hpass : ∀ {l : List Entry}, d.Passed code l → d.Passed code (x :: l) := by
          intro l hl y hy
          rcases List.mem_cons.1 hy with rfl | hy
          · exact ⟨t, hr, hc⟩
          · exact hl y hy
        rcases ih fun y hy => hm y (List.mem_cons_of_mem x hy) with
          ⟨before, y, after, r', rfl, hb, hy⟩ | hall
        · exact Or.inl ⟨x :: before, y, after, r', rfl, hpass hb, hy⟩
        · exact Or.inr (hpass hall)

/-! ## The meaning of a code -/

/-- **The lookup gives the meaning of a code.** -/
theorem resolve_eq_of_means {d : Definition} {code catalogue : String}
    {r : Except Failure Meaning} (h : d.Means code catalogue r) : d.resolve code catalogue = r := by
  cases h with
  | unreadable hs =>
    unfold resolve
    rw [specialMappings_eq_iff.2 hs]
    rfl
  | special hs hf ht => rw [resolve_of_first hs hf, requireDoctype_of_stands ht]; rfl
  | specialMalformed hs hf he => rw [resolve_of_first hs hf, requireDoctype_of_stands he]; rfl
  | dangling hd =>
    obtain ⟨specials, s, hs, hf, rfl, ha⟩ := hd
    rw [resolve_of_first hs hf, requireDoctype_of_absent ha]
    rfl
  | general hs hn hd hp ht hc =>
    rw [resolve_of_noSpecial hs hn, doctypeTitles, hd, List.map_append, List.map_cons,
      firstWithCode_of_passed hp, firstWithCode_of_found ht hc]
    rfl
  | malformed hs hn hd hp he =>
    rw [resolve_of_noSpecial hs hn, doctypeTitles, hd, List.map_append, List.map_cons,
      firstWithCode_of_passed hp, firstWithCode_of_malformed he]
    rfl
  | unknown hs hn hp =>
    have hwalk := firstWithCode_of_passed hp []
    rw [List.append_nil] at hwalk
    rw [resolve_of_noSpecial hs hn, doctypeTitles, hwalk]
    rfl

/-- **Every code has a meaning**, a failure included. -/
theorem exists_means (d : Definition) (code catalogue : String) :
    ∃ r, d.Means code catalogue r := by
  have hs := specialMappings_eq_iff.1 (rfl : d.specialMappings catalogue = _)
  cases hr : d.specialMappings catalogue with
  | error f =>
    rw [hr] at hs
    exact ⟨_, .unreadable hs⟩
  | ok specials =>
    rw [hr] at hs
    rcases first_or_absent SpecialMapping.code specials code with ⟨s, hfirst⟩ | hn
    · rcases d.stands_or_absent s.doctypeTitle with ⟨r, hst⟩ | ha
      · cases r with
        | ok t => exact ⟨_, .special hs hfirst hst⟩
        | error e => exact ⟨_, .specialMalformed hs hfirst hst⟩
      · exact ⟨_, .dangling ⟨specials, s, hs, hfirst, rfl, ha⟩⟩
    · rcases d.walk_cases code d.contents.doctypes fun x hx => hx with
        ⟨before, x, after, r, hd, hp, hst, ⟨t, rfl, hc⟩ | ⟨e, rfl⟩⟩ | hp
      · exact ⟨_, .general hs hn hd hp hst hc⟩
      · exact ⟨_, .malformed hs hn hd hp hst⟩
      · exact ⟨_, .unknown hs hn hp⟩

/-- A failure about special mappings that cannot be read is none about a title that is not
configured. -/
theorem kind_of_unreadable {d : Definition} {catalogue : String} {f : Failure}
    (h : d.HasSpecials catalogue (.error f)) : f.kind ≠ .inconsistent := by
  rcases h with ⟨x, _, hx⟩ | ⟨_, hx⟩
  · rcases specialMappingsOf_error hx with ⟨e, rfl, hk, _⟩ | ⟨v, _, _, rfl⟩ | ⟨rfl, _⟩
    · simp [Failure.kind, hk]
    · simp [Failure.kind]
    · simp [Failure.kind]
  · cases hx

/-- Neither is one about a document type that is malformed. -/
theorem Stands.kind_ne_inconsistent {d : Definition} {title : String} {f : Failure}
    (h : d.Stands title (.error f)) : f.kind ≠ .inconsistent := by
  rcases h.error_cases with ⟨e, rfl, hk⟩ | ⟨rfl, _⟩
  · simp [Failure.kind, hk]
  · simp [Failure.kind]

/-- **The only failure of a lookup for want of a document type is the one of a dangling code.** -/
theorem means_inconsistent_iff {d : Definition} {code catalogue : String} {f : Failure} :
    d.Means code catalogue (.error f) ∧ f.kind = .inconsistent ↔
      ∃ title, d.Dangles code catalogue title ∧
        f = .error (d.notConfigured title (.text catalogue)) := by
  constructor
  · rintro ⟨h, hk⟩
    cases h with
    | unreadable hs => exact absurd hk (kind_of_unreadable hs)
    | dangling hd => exact ⟨_, hd, rfl⟩
    | specialMalformed _ _ hf => exact absurd hk hf.kind_ne_inconsistent
    | malformed _ _ _ _ hf => exact absurd hk hf.kind_ne_inconsistent
  · rintro ⟨title, hd, rfl⟩
    exact ⟨.dangling hd, rfl⟩

/-- **The lookup of a code is exactly its meaning.**  The answer on the log is the document type that
the code means.  A lookup fails for want of a document type exactly when the code dangles, with an
error that names the title, the catalogue and the source.  A malformed document type is a parsing
error, but where it is given up at an integer that is too long for the text that it stands for. -/
theorem resolve_iff_means (d : Definition) (code catalogue : String) :
    (∀ r, d.resolve code catalogue = r ↔ d.Means code catalogue r) ∧
    (d.askMeaning code catalogue).result = (d.resolve code catalogue).map (·.doctype?) ∧
    (∀ f, d.resolve code catalogue = .error f ∧ f.kind = .inconsistent ↔
      ∃ title, d.Dangles code catalogue title ∧
        f = .error (d.notConfigured title (.text catalogue))) ∧
    (∀ title, (d.notConfigured title (.text catalogue)).context =
      { Context.empty with
        doctype := .text title, catalogue := .text catalogue, sourcePath := .text d.source }) ∧
    (∀ title f, d.Stands title (.error f) →
      (∃ e : Error, f = .error e ∧ e.kind = .parse) ∨ f = .unwritable) ∧
    (∀ title, d.Stands title (.error .unwritable) ↔ d.DoctypeGivesUp title) := by
  have hiff : ∀ r, d.resolve code catalogue = r ↔ d.Means code catalogue r := by
    intro r
    constructor
    · rintro rfl
      obtain ⟨r, hr⟩ := d.exists_means code catalogue
      rw [resolve_eq_of_means hr]
      exact hr
    · exact resolve_eq_of_means
  refine ⟨hiff, ?_, ?_, fun title => rfl, ?_, fun title => stands_unwritable_iff⟩
  · unfold askMeaning
    simp only [Logged.result_bind, Logged.silent]
    cases d.resolve code catalogue <;> rfl
  · intro f
    rw [hiff]
    exact means_inconsistent_iff
  · intro title f hf
    exact hf.error_cases.imp_right And.left

/-- A document whose only document type has a code of one digit too many. -/
def overlongCode : Entries :=
  [(.text "doctypes", .map [(.text "type", .map [(.text "title", .text "Monograph"),
    (.text "mapping", .list [.int (powerOfTen 4300)])])])]

/-- **It is not so that a malformed document type is always a parsing error**, in what a document
says: a code may have one digit too many. -/
theorem overlong_code_escapes :
    ¬ ∀ (document : Entries) (d : Definition),
      Contents.ofDocument document d.source = .ok d.contents →
      ∀ code catalogue f, d.resolve code catalogue = .error f →
        f.kind.isA .parse = true ∨ f.kind = .inconsistent := by
  intro h
  obtain ⟨c, hc⟩ : ∃ c, Contents.ofDocument overlongCode "opac.yaml" = .ok c := ⟨_, rfl⟩
  let d : Definition := ⟨"opac.yaml", 1, none, c⟩
  have hrow : d.contents.doctypes = _ := congrArg Contents.doctypes (Except.ok.inj hc).symm
  have hnone : d.contents.catalogues = [] := congrArg Contents.catalogues (Except.ok.inj hc).symm
  have hgives : d.Stands "Monograph" (.error .unwritable) := by
    refine stands_unwritable_iff.2 ⟨_, ⟨[], [], hrow, rfl, by simp⟩, .number ?_⟩
    exact .code rfl (Or.inr (Or.inl rfl)) (List.mem_singleton_self _) ⟨_, rfl, by decide +kernel⟩
  have hfails : d.resolve "Aa" "GBV" = .error .unwritable := by
    have hno : d.HasSpecials "GBV" (.ok []) := Or.inr ⟨by rw [hnone]; simp, rfl⟩
    exact resolve_eq_of_means (.malformed hno (by simp) hrow
      (fun x hx => absurd hx List.not_mem_nil) hgives)
  rcases h overlongCode d hc "Aa" "GBV" _ hfails with hk | hk <;> cases hk

end LibraryCatalogue.Definition
