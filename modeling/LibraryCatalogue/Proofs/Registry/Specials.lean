import LibraryCatalogue.Proofs.Definition.Titles
import LibraryCatalogue.Proofs.Endpoint.Specials
import LibraryCatalogue.Proofs.Registry.Resolution

/-!
# Special mappings and the meaning of a code

The first phase of a lookup goes through the special mappings of the catalogue, which are read there
without the rest of the entry.  That they are the ones of the endpoint can be relied on; that a value of
the wrong kind is reported cannot.

* `Definition.FirstPhase`, `firstPhase_of_hasSpecials` — the special mappings that a lookup goes through
  first, and what it does otherwise;
* `specials_read_alike` — whenever there is an endpoint, these are its special mappings;
* `MeaningGivesUp`, `resolve_eq_unwritable_iff` — the lookups that are given up at an integer that is
  too long for the text that it stands for;
* `resolve_error`, `resolve_eq_notIterable_iff`, `resolve_of_rejected` — all failures of a lookup, and
  what becomes of a value that the schema of a catalogue rejects;
* `rejected_specials_reported` — such a value is reported, or it is one of three exceptions;
* `unchecked_specials_escape` — a file with two of them.
-/

namespace LibraryCatalogue

open Schema Value Results

namespace Definition

variable {d : Definition} {code catalogue : String}

/-! ## The first phase -/

/-- The special mappings that a lookup goes through first: the first of them with the code decides, and
without one the document types do. -/
structure FirstPhase (d : Definition) (code catalogue : String) (specials : List SpecialMapping) :
    Prop where
  found : ∀ s, First SpecialMapping.code specials code s →
    d.resolve code catalogue =
      (d.requireDoctype s.doctypeTitle (.text catalogue)).map .special
  otherwise : (∀ s ∈ specials, s.code ≠ code) →
    d.resolve code catalogue =
      (d.firstWithCode code d.doctypeTitles).map fun
        | some t => .general t
        | none => .unknown

theorem firstPhase_of_hasSpecials {specials : List SpecialMapping}
    (h : d.HasSpecials catalogue (.ok specials)) (code : String) :
    d.FirstPhase code catalogue specials where
  found _ hs := resolve_of_first h hs
  otherwise hn := resolve_of_noSpecial h hn

/-- The special mappings of a catalogue are those of its endpoint. -/
theorem hasSpecials_of_endpoint? {e? : Option Endpoint} (h : d.endpoint? catalogue = .ok e?) :
    d.HasSpecials catalogue (.ok (e?.elim [] (·.specialMappings))) := by
  rcases first_or_absent Entry.title d.contents.catalogues catalogue with ⟨x, hx⟩ | ha
  · rw [endpoint?_of_first hx] at h
    obtain ⟨e, he, rfl⟩ := map_eq_ok_iff.1 h
    exact Or.inl ⟨x, hx, Endpoint.specials_of_ofEntry he⟩
  · rw [endpoint?_of_absent ha] at h
    cases h
    exact Or.inr ⟨ha, rfl⟩

/-- **The special mappings read alone are those of the endpoint.**  What the schema of a catalogue
reads of this field is what is read of it alone, whatever else is in the entry; so an entry that is an
endpoint has the same special mappings in both ways.  If reading them alone fails, the entry is no
endpoint: it is a parsing error that names the catalogue, or it is given up as well.  A lookup in a
catalogue that can be asked for therefore goes through the special mappings of its endpoint first; if
there is no such catalogue, through none. -/
theorem specials_read_alike :
    (∀ fields es, writtenSpecials fields = .ok es →
      specialMappingsOf fields = .ok (es.map SpecialMappingEntry.resolve)) ∧
    (∀ fields e, Endpoint.ofEntry fields = .ok e →
      specialMappingsOf fields = .ok e.specialMappings) ∧
    (∀ fields f, specialMappingsOf fields = .error f →
      (∃ x : Error, Endpoint.ofEntry fields = .error (.error x) ∧ x.kind = .parse ∧
        x.context.catalogue = rawTitle fields) ∨
        Endpoint.ofEntry fields = .error .unwritable ∧ Endpoint.GivesUp fields .unwritable) ∧
    ∀ (d : Definition) (name : String) (e? : Option Endpoint),
      (d.askEndpoint name).result = .ok e? →
        d.specialMappings name = .ok (e?.elim [] (·.specialMappings)) ∧
        ∀ code, d.FirstPhase code name (e?.elim [] (·.specialMappings)) := by
  refine ⟨fun _ _ => specialMappingsOf_of_written, fun _ _ => Endpoint.specials_of_ofEntry,
    fun _ _ => Endpoint.ofEntry_error_of_specials, ?_⟩
  intro d name e? h
  rw [askEndpoint_result] at h
  have hspecials := hasSpecials_of_endpoint? h
  exact ⟨specialMappings_eq_iff.2 hspecials, firstPhase_of_hasSpecials hspecials⟩

/-- A file with one mapping in place of a list of special mappings, and a number for its code. -/
def oneSpecial : Sight where
  marker := .ok ⟨1, 149⟩
  content := .ok ("catalogue:\n" ++
    "- title: GBV\n  config: \x7baddress: a, database: b, port: 80\x7d\n" ++
    "  specialmapping: \x7btype: Journal, value: 4\x7d\n" ++
    "doctypes: \x7btype: \x7btitle: Journal\x7d\x7d\n").toUTF8.toList

theorem specials_read_alike_oneSpecial :
    ∃ d e, ((Store.ofPath (Path.ofText "opac.yaml") false).load oneSpecial).1.result = .ok d ∧
      (d.askEndpoint "GBV").result = .ok (some e) ∧ e.specialMappings = [⟨"4", "Journal"⟩] ∧
      d.specialMappings "GBV" = .ok e.specialMappings ∧
      ∀ code, d.FirstPhase code "GBV" e.specialMappings := by
  have heval :
      ((Store.ofPath (Path.ofText "opac.yaml") false).load oneSpecial).1.result.toOption.bind
        (fun d => (d.askEndpoint "GBV").result.toOption.map fun e? =>
          e?.map (·.specialMappings)) = some (some [⟨"4", "Journal"⟩]) := by
    decide +kernel
  obtain ⟨d, hload, hrest⟩ := Option.bind_eq_some_iff.1 heval
  obtain ⟨e?, hask, he?⟩ := Option.map_eq_some_iff.1 hrest
  obtain ⟨e, rfl, hspecials⟩ := Option.map_eq_some_iff.1 he?
  rw [toOption_eq_some_iff] at hload hask
  obtain ⟨_, _, _, hlookup⟩ := specials_read_alike
  obtain ⟨hread, hphase⟩ := hlookup d "GBV" (some e) hask
  exact ⟨d, e, hload, hask, hspecials, hread, hphase⟩

/-! ## Failures of a lookup -/

/-- The meaning of a code is given up: at the special mappings of the catalogue, at the document type
that the first of them with the code refers to, or, when none has it, at the first document type that is
no answer. -/
inductive MeaningGivesUp (d : Definition) (code catalogue : String) : Prop where
  | specials {e : Entry} : First Entry.title d.contents.catalogues catalogue e →
      SpecialsGivenUp e.fields → MeaningGivesUp d code catalogue
  | special {specials : List SpecialMapping} {s : SpecialMapping} :
      d.HasSpecials catalogue (.ok specials) → First SpecialMapping.code specials code s →
      d.DoctypeGivesUp s.doctypeTitle → MeaningGivesUp d code catalogue
  | general {specials : List SpecialMapping} {before after : List Entry} {x : Entry} :
      d.HasSpecials catalogue (.ok specials) → (∀ s ∈ specials, s.code ≠ code) →
      d.contents.doctypes = before ++ x :: after → d.Passed code before →
      d.DoctypeGivesUp x.title → MeaningGivesUp d code catalogue

theorem hasSpecials_unwritable_iff :
    d.HasSpecials catalogue (.error .unwritable) ↔
      ∃ e, First Entry.title d.contents.catalogues catalogue e ∧ SpecialsGivenUp e.fields := by
  simp only [HasSpecials, reduceCtorEq, and_false, or_false, specialMappingsOf_eq_unwritable_iff]

/-- **A lookup is given up exactly in these cases.** -/
theorem resolve_eq_unwritable_iff :
    d.resolve code catalogue = .error .unwritable ↔ d.MeaningGivesUp code catalogue := by
  constructor
  · intro h
    obtain ⟨r, hr⟩ := d.exists_means code catalogue
    obtain rfl : r = .error .unwritable := (resolve_eq_of_means hr).symm.trans h
    cases hr with
    | unreadable hs =>
      obtain ⟨e, he, hgives⟩ := hasSpecials_unwritable_iff.1 hs
      exact .specials he hgives
    | specialMalformed hs hf hx => exact .special hs hf (stands_unwritable_iff.1 hx)
    | malformed hs hn hd hp hx => exact .general hs hn hd hp (stands_unwritable_iff.1 hx)
  · intro h
    cases h with
    | specials he hgives =>
      exact resolve_eq_of_means (.unreadable (hasSpecials_unwritable_iff.2 ⟨_, he, hgives⟩))
    | special hs hf hx =>
      exact resolve_eq_of_means (.specialMalformed hs hf (stands_unwritable_iff.2 hx))
    | general hs hn hd hp hx =>
      exact resolve_eq_of_means (.malformed hs hn hd hp (stands_unwritable_iff.2 hx))

/-- **All failures of a lookup**: a malformed entry, a document type that is not configured, special
mappings that cannot be gone through, or an integer at which the lookup is given up. -/
theorem resolve_error {f : Failure} (h : d.resolve code catalogue = .error f) :
    (∃ x : Error, f = .error x ∧ (x.kind = .parse ∨ x.kind = .inconsistent)) ∨
      (∃ kind, f = .notIterable kind ∧ d.HasSpecials catalogue (.error f)) ∨
      f = .unwritable := by
  obtain ⟨r, hr⟩ := d.exists_means code catalogue
  obtain rfl : r = .error f := (resolve_eq_of_means hr).symm.trans h
  have hdoctype {title : String} (hx : d.Stands title (.error f)) :
      (∃ x : Error, f = .error x ∧ (x.kind = .parse ∨ x.kind = .inconsistent)) ∨
        f = .unwritable := by
    rcases hx.error_cases with ⟨x, rfl, hkind⟩ | ⟨rfl, _⟩
    · exact Or.inl ⟨x, rfl, Or.inl hkind⟩
    · exact Or.inr rfl
  cases hr with
  | unreadable hs =>
    rcases hs with ⟨e, he, hf⟩ | ⟨_, hf⟩
    · rcases specialMappingsOf_error hf with ⟨x, rfl, hkind, _⟩ | ⟨v, _, _, rfl⟩ | ⟨rfl, _⟩
      · exact Or.inl ⟨x, rfl, Or.inl hkind⟩
      · exact Or.inr (Or.inl ⟨_, rfl, Or.inl ⟨e, he, hf⟩⟩)
      · exact Or.inr (Or.inr rfl)
    · cases hf
  | specialMalformed _ _ hx => exact (hdoctype hx).imp_right Or.inr
  | dangling _ => exact Or.inl ⟨_, rfl, Or.inr rfl⟩
  | malformed _ _ _ _ hx => exact (hdoctype hx).imp_right Or.inr

theorem resolve_of_unreadable {f : Failure} (h : d.HasSpecials catalogue (.error f)) (code : String) :
    d.resolve code catalogue = .error f :=
  resolve_eq_of_means (.unreadable h)

/-- A lookup fails for want of something to go through exactly at a scalar. -/
theorem resolve_eq_notIterable_iff {kind : String} :
    d.resolve code catalogue = .error (.notIterable kind) ↔
      ∃ e v, First Entry.title d.contents.catalogues catalogue e ∧
        get? e.fields "specialmapping" = some v ∧ v.Lone ∧ v.kindName = kind := by
  constructor
  · intro h
    rcases resolve_error h with ⟨x, hx, _⟩ | ⟨_, _, ⟨e, he, hf⟩ | ⟨_, hf⟩⟩ | hx
    · cases hx
    · obtain ⟨v, hv⟩ := specialMappingsOf_eq_notIterable_iff.1 hf
      exact ⟨e, v, he, hv⟩
    · cases hf
    · cases hx
  · rintro ⟨e, v, he, hv⟩
    exact resolve_of_unreadable (Or.inl ⟨e, he, specialMappingsOf_eq_notIterable_iff.2 ⟨v, hv⟩⟩) code

/-- **What becomes of special mappings that the schema of a catalogue rejects**: a parsing error that
names the catalogue, but that a scalar fails in its own way, a blank value goes for none, and some items
are given up. -/
theorem resolve_of_rejected {e : Entry} {f : Finding}
    (he : First Entry.title d.contents.catalogues catalogue e)
    (h : writtenSpecials e.fields = .error f) (code : String) :
    (∃ x : Error, d.resolve code catalogue = .error (.error x) ∧ x.kind = .parse ∧
        x.context.catalogue = rawTitle e.fields) ∨
      (∃ v, get? e.fields "specialmapping" = some v ∧ v.Lone ∧
        d.resolve code catalogue = .error (.notIterable v.kindName)) ∨
      (∃ v, get? e.fields "specialmapping" = some v ∧ v.Blank ∧ d.FirstPhase code catalogue []) ∨
      SpecialsGivenUp e.fields ∧ d.resolve code catalogue = .error .unwritable := by
  rcases specialMappingsOf_of_rejected h with ⟨x, hx, hnamed⟩ | ⟨v, hget, hlone, hv⟩ |
    ⟨v, hget, hblank, hv⟩ | hgives
  · exact Or.inl ⟨x, resolve_of_unreadable (Or.inl ⟨e, he, hx⟩) code, hnamed⟩
  · exact Or.inr (Or.inl ⟨v, hget, hlone, resolve_of_unreadable (Or.inl ⟨e, he, hv⟩) code⟩)
  · exact Or.inr (Or.inr (Or.inl
      ⟨v, hget, hblank, firstPhase_of_hasSpecials (Or.inl ⟨e, he, hv⟩) code⟩))
  · exact Or.inr (Or.inr (Or.inr ⟨hgives, resolve_eq_unwritable_iff.2 (.specials he hgives)⟩))

/-- **Special mappings that the schema of a catalogue rejects are reported, with three exceptions.**  A
lookup fails with a parsing error, with the one for a document type that is not configured, exactly
when a scalar stands where special mappings are expected for want of something to go through, or exactly
when the meaning of the code is given up at an integer that is too long for the text that it stands
for.  Special mappings that the schema rejects are a parsing error that names the catalogue, unless they
are such a scalar, or blank, or given up; the lookup goes through a blank value as if nothing were
written. -/
theorem rejected_specials_reported (d : Definition) (code catalogue : String) :
    (∀ f, (d.askMeaning code catalogue).result = .error f →
      (∃ x : Error, f = .error x ∧ (x.kind = .parse ∨ x.kind = .inconsistent)) ∨
        (∃ kind, f = .notIterable kind) ∨ f = .unwritable) ∧
    (∀ kind, (d.askMeaning code catalogue).result = .error (.notIterable kind) ↔
      ∃ e v, First Entry.title d.contents.catalogues catalogue e ∧
        get? e.fields "specialmapping" = some v ∧ v.Lone ∧ v.kindName = kind) ∧
    ((d.askMeaning code catalogue).result = .error .unwritable ↔ d.MeaningGivesUp code catalogue) ∧
    (∀ e f, First Entry.title d.contents.catalogues catalogue e →
      writtenSpecials e.fields = .error f →
      (∃ x : Error, (d.askMeaning code catalogue).result = .error (.error x) ∧ x.kind = .parse ∧
          x.context.catalogue = rawTitle e.fields) ∨
        (∃ v, get? e.fields "specialmapping" = some v ∧ v.Lone ∧
          (d.askMeaning code catalogue).result = .error (.notIterable v.kindName)) ∨
        (∃ v, get? e.fields "specialmapping" = some v ∧ v.Blank ∧ d.FirstPhase code catalogue []) ∨
        SpecialsGivenUp e.fields ∧ (d.askMeaning code catalogue).result = .error .unwritable) ∧
    ∀ fields v, get? fields "specialmapping" = some v → v.Lone ∨ v.Blank →
      writtenSpecials fields = .error (.faults [⟨[.field "specialmapping"], .notList⟩]) := by
  simp only [askMeaning_result, map_eq_error_iff]
  refine ⟨?_, fun kind => resolve_eq_notIterable_iff, resolve_eq_unwritable_iff,
    fun e f he h => resolve_of_rejected he h code, ?_⟩
  · intro f h
    rcases resolve_error h with hx | ⟨kind, rfl, _⟩ | rfl
    · exact Or.inl hx
    · exact Or.inr (Or.inl ⟨kind, rfl⟩)
    · exact Or.inr (Or.inr rfl)
  · rintro fields v hget (hlone | hblank)
    · exact writtenSpecials_of_not_row hget hlone.row?
    · exact writtenSpecials_of_not_row hget hblank.row?

/-- A file in which a number stands for the special mappings of one catalogue, and a text of length
zero for those of another. -/
def unchecked : Sight where
  marker := .ok ⟨1, 128⟩
  content := .ok ("catalogue:\n" ++
    "- title: GBV\n  specialmapping: 5\n" ++
    "- title: KXP\n  specialmapping: ''\n" ++
    "doctypes: \x7btype: \x7btitle: Monograph, mapping: Aa\x7d\x7d\n").toUTF8.toList

/-- **It is not so that a lookup fails with a parsing error or for want of a document type only, nor that
it always fails when the schema of a catalogue rejects the special mappings.** -/
theorem unchecked_specials_escape :
    (¬ ∀ d : Definition, d.Loaded → ∀ code catalogue f,
      (d.askMeaning code catalogue).result = .error f →
        ∃ x : Error, f = .error x ∧ (x.kind = .parse ∨ x.kind = .inconsistent)) ∧
    ¬ ∀ d : Definition, d.Loaded → ∀ code catalogue e found,
      First Entry.title d.contents.catalogues catalogue e → writtenSpecials e.fields = .error found →
        ∃ f, (d.askMeaning code catalogue).result = .error f := by
  have heval :
      ((Store.ofPath (Path.ofText "opac.yaml") false).load unchecked).1.result.toOption.map
        (fun d => ((d.findCatalogue? "GBV").bind fun e =>
            (get? e.fields "specialmapping").map kindName,
          (d.findCatalogue? "KXP").map fun e => (writtenSpecials e.fields).toOption.isNone,
          (d.askMeaning "Aa" "KXP").result.toOption.isSome)) = some (some "int", some true, true) := by
    decide +kernel
  obtain ⟨d, hload, heq⟩ := Option.map_eq_some_iff.1 heval
  rw [toOption_eq_some_iff] at hload
  have hd : d.Loaded := ⟨_, _, hload⟩
  obtain ⟨hscalar, heq⟩ := Prod.mk.inj heq
  obtain ⟨hrejected, hanswers⟩ := Prod.mk.inj heq
  constructor
  · intro h
    obtain ⟨e, he, hkind⟩ := Option.bind_eq_some_iff.1 hscalar
    obtain ⟨v, hget, hkind⟩ := Option.map_eq_some_iff.1 hkind
    have hlone : v.Lone := by
      cases v with
      | int i => exact .int i
      | _ => simp [kindName] at hkind
    have hfails : d.resolve "Aa" "GBV" = .error (.notIterable "int") :=
      resolve_eq_notIterable_iff.2 ⟨e, v, find?_key_eq_some_iff.1 he, hget, hlone, hkind⟩
    obtain ⟨x, hx, _⟩ := h d hd "Aa" "GBV" (.notIterable "int")
      (by rw [askMeaning_result, hfails]; rfl)
    cases hx
  · intro h
    obtain ⟨e, he, hnone⟩ := Option.map_eq_some_iff.1 hrejected
    cases hw : writtenSpecials e.fields with
    | ok es =>
      rw [hw] at hnone
      cases hnone
    | error found =>
      obtain ⟨f, hf⟩ := h d hd "Aa" "KXP" e found (find?_key_eq_some_iff.1 he) hw
      rw [hf] at hanswers
      cases hanswers

end Definition

end LibraryCatalogue
