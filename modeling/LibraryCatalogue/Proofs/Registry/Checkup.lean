import LibraryCatalogue.Proofs.Definition.Titles
import LibraryCatalogue.Proofs.Endpoint.Failures
import LibraryCatalogue.Proofs.Occurrences
import LibraryCatalogue.Proofs.Registry.Lookup

/-!
# One catalogue, all of them, and the check of all

Three questions look catalogues up: for one title, for every listed title, and for every title once
with the malformed ones handed back.  They agree on every title.

* `endpoint?_error` — a parsing failure of a lookup names the catalogue;
* `listed_endpoint?` — a listed title stands for an endpoint or a failure;
* `check_entries` — the check reports what each lookup gives;
* `lookups_agree` — the three questions together.
-/

namespace LibraryCatalogue

open Results

namespace Definition

variable {d : Definition}

/-- **A parsing failure of a lookup is an error that names the title asked for.** -/
theorem endpoint?_error (hd : d.Loaded) {title : String} {f : Failure}
    (h : d.endpoint? title = .error f) (hk : f.kind.isA .parse = true) :
    ∃ e, f = .error e ∧ e.context.catalogue = .text title := by
  rcases first_or_absent Entry.title d.contents.catalogues title with ⟨x, hx⟩ | ha
  · rw [endpoint?_of_first hx] at h
    obtain ⟨e, rfl, he⟩ := Endpoint.ofEntry_error (map_eq_error_iff.1 h) hk
    obtain ⟨before, after, hs, rfl, _⟩ := hx
    have htitled := (titled_of_loaded hd).catalogues x (by rw [hs]; simp)
    exact ⟨e, rfl, he.trans htitled⟩
  · rw [endpoint?_of_absent ha] at h
    cases h

/-! ## Listed titles -/

/-- **A listed title stands for an endpoint or a failure.** -/
theorem listed_endpoint? {title : String} (h : title ∈ d.catalogueTitles) :
    ∃ r : Except Failure Endpoint, d.endpoint? title = r.map some := by
  obtain ⟨x, hx, rfl⟩ := List.mem_map.1 h
  have hfirst : ∃ y, First Entry.title d.contents.catalogues x.title y := exists_first_of_mem hx
  obtain ⟨y, hy⟩ := hfirst
  exact ⟨_, endpoint?_of_first hy⟩

theorem listed_of_endpoint? {title : String} {r : Except Failure Endpoint}
    (h : d.endpoint? title = r.map some) : title ∈ d.catalogueTitles := by
  rcases first_or_absent Entry.title d.contents.catalogues title with
    ⟨x, before, after, hs, rfl, _⟩ | ha
  · rw [catalogueTitles, hs]
    simp
  · rw [endpoint?_of_absent ha] at h
    cases r <;> cases h

theorem checkOne_of_ok {title : String} {e : Endpoint} (h : d.endpoint? title = .ok (some e)) :
    d.checkOne title = .ok (some (title, .ok e)) := by
  unfold checkOne attempt
  rw [h]
  rfl

/-- A parsing failure is reported, and any other one stops the check. -/
theorem checkOne_of_error {title : String} {f : Failure} (h : d.endpoint? title = .error f) :
    d.checkOne title =
      if f.kind.isA .parse then .ok (some (title, .error f)) else .error f := by
  unfold checkOne attempt
  rw [h]
  by_cases hk : f.kind.isA .parse = true <;> simp [hk, Except.map]

theorem checkOne_ne_none {title : String} (h : title ∈ d.catalogueTitles) :
    d.checkOne title ≠ .ok none := by
  obtain ⟨r, hr⟩ := listed_endpoint? h
  cases r with
  | ok e =>
    rw [checkOne_of_ok hr]
    simp
  | error f =>
    rw [checkOne_of_error hr]
    split <;> simp

theorem endpoint?_of_checkOne {title : String} {c : Checkup}
    (h : d.checkOne title = .ok (some c)) : c.1 = title ∧ d.endpoint? title = c.2.map some ∧
      ∀ f, c.2 = .error f → f.kind.isA .parse = true := by
  cases he : d.endpoint? title with
  | ok e? =>
    cases e? with
    | none =>
      unfold checkOne attempt at h
      rw [he] at h
      cases h
    | some e =>
      rw [checkOne_of_ok he] at h
      cases h
      exact ⟨rfl, rfl, fun f hf => by cases hf⟩
  | error f =>
    rw [checkOne_of_error he] at h
    split at h
    · rename_i hk
      cases h
      refine ⟨rfl, rfl, ?_⟩
      rintro _ ⟨⟩
      exact hk
    · cases h

/-! ## The check -/

/-- **The check reports what each lookup gives**, one title after another. -/
theorem check_entries {results : List Checkup} (h : d.check = .ok results) :
    List.Forall₂ (fun t c => c.1 = t ∧ d.endpoint? t = c.2.map some ∧
      ∀ f, c.2 = .error f → f.kind.isA .parse = true) d.catalogueTitles.eraseDups results := by
  have hf := (mapM_filterMap_eq_ok_iff fun t ht =>
    checkOne_ne_none (List.mem_eraseDups.1 ht)).1 h
  exact hf.imp fun t c hc => endpoint?_of_checkOne hc

theorem check_titles {results : List Checkup} (h : d.check = .ok results) :
    results.map (·.1) = d.catalogueTitles.eraseDups := by
  have hf : List.Forall₂ (· = ·) d.catalogueTitles.eraseDups (results.map (·.1)) := by
    rw [List.forall₂_map_right_iff]
    exact (check_entries h).imp fun t c hc => hc.1.symm
  rw [List.forall₂_eq_eq_eq] at hf
  exact hf.symm

theorem check_entry {results : List Checkup} (h : d.check = .ok results) {c : Checkup}
    (hc : c ∈ results) : d.endpoint? c.1 = c.2.map some ∧
      ∀ f, c.2 = .error f → f.kind.isA .parse = true := by
  obtain ⟨t, _, rfl, hr⟩ := exists_left_of_forall₂ (check_entries h) c hc
  exact hr

/-- **A check lists of a title what the lookup gives, and nothing else.** -/
theorem mem_check_iff {results : List Checkup} (h : d.check = .ok results) {title : String}
    {r : Except Failure Endpoint} : (title, r) ∈ results ↔ d.endpoint? title = r.map some := by
  constructor
  · intro hmem
    exact (check_entry h hmem).1
  · intro hr
    have hlisted : title ∈ results.map (·.1) := by
      rw [check_titles h]
      exact List.mem_eraseDups.2 (listed_of_endpoint? hr)
    obtain ⟨c, hc, rfl⟩ := List.mem_map.1 hlisted
    have hsame : c.2.map some = r.map some := (check_entry h hc).1.symm.trans hr
    have hr' : c.2 = r := by
      revert hsame
      cases c.2 <;> cases r <;> simp [Except.map]
    rw [← hr']
    exact hc

/-! ## All catalogues -/

theorem listed_ok {title : String} (h : title ∈ d.catalogueTitles) {e? : Option Endpoint}
    (he : d.endpoint? title = .ok e?) : ∃ e, d.endpoint? title = .ok (some e) := by
  obtain ⟨r, hr⟩ := listed_endpoint? h
  cases r with
  | ok e => exact ⟨e, hr⟩
  | error f =>
    rw [hr] at he
    cases he

/-- **All catalogues can be had when each of them can**, in the order of the titles. -/
theorem endpoints_eq_ok_iff {es : List Endpoint} :
    d.endpoints = .ok es ↔
      List.Forall₂ (fun t e => d.endpoint? t = .ok (some e)) d.catalogueTitles es := by
  apply mapM_filterMap_eq_ok_iff
  intro t ht hnone
  obtain ⟨e, he⟩ := listed_ok ht hnone
  rw [hnone] at he
  cases he

/-- Otherwise they fail as the first title does that fails. -/
theorem endpoints_eq_error_iff {f : Failure} :
    d.endpoints = .error f ↔ ∃ before t after, d.catalogueTitles = before ++ t :: after ∧
      (∀ x ∈ before, ∃ e, d.endpoint? x = .ok (some e)) ∧ d.endpoint? t = .error f := by
  rw [endpoints, map_mapM_eq_error_iff]
  constructor
  · rintro ⟨before, t, after, hs, hb, ht⟩
    refine ⟨before, t, after, hs, ?_, ht⟩
    intro x hx
    obtain ⟨e?, he⟩ := hb x hx
    exact listed_ok (by rw [hs]; exact List.mem_append_left _ hx) he
  · rintro ⟨before, t, after, hs, hb, ht⟩
    refine ⟨before, t, after, hs, ?_, ht⟩
    intro x hx
    obtain ⟨e, he⟩ := hb x hx
    exact ⟨some e, he⟩

/-- All catalogues can be had if and only if the check lists no failure. -/
theorem exists_endpoints_iff {results : List Checkup} (h : d.check = .ok results) :
    (∃ es, d.endpoints = .ok es) ↔ ∀ c ∈ results, ∃ e, c.2 = .ok e := by
  constructor
  · rintro ⟨es, hes⟩ ⟨t, r⟩ hc
    have hlisted : t ∈ d.catalogueTitles := listed_of_endpoint? ((mem_check_iff h).1 hc)
    obtain ⟨e, _, he⟩ := exists_left_of_forall₂ (endpoints_eq_ok_iff.1 hes).flip t hlisted
    have hr := (mem_check_iff h).1 hc
    cases r with
    | ok e' => exact ⟨e', rfl⟩
    | error f =>
      have hok : d.endpoint? t = .ok (some e) := he
      rw [hok] at hr
      cases hr
  · intro hall
    cases hes : d.endpoints with
    | ok es => exact ⟨es, rfl⟩
    | error f =>
      obtain ⟨before, t, after, _, _, ht⟩ := endpoints_eq_error_iff.1 hes
      obtain ⟨e, he⟩ := hall (t, .error f) ((mem_check_iff h).2 ht)
      cases he

/-- **The three questions agree.**  Where the check of a loaded definition comes to an end, it lists
every title once, in the order of first occurrences, and of each title exactly what its lookup gives;
a failure that it lists is a parsing error which names the title.  All catalogues can be had if and
only if the check lists no failure, and then they are what it lists, title by title; otherwise the
failure is that of the first title that has one. -/
theorem lookups_agree (hd : d.Loaded) {results : List Checkup}
    (hc : d.askCheck.result = .ok results) :
    ((∀ t, t ∈ results.map (·.1) ↔ t ∈ d.catalogueTitles) ∧
      (results.map (·.1)).Pairwise fun a b =>
        d.catalogueTitles.idxOf a < d.catalogueTitles.idxOf b) ∧
    (∀ t e, (t, .ok e) ∈ results ↔ (d.askEndpoint t).result = .ok (some e)) ∧
    (∀ t f, (t, .error f) ∈ results ↔ (d.askEndpoint t).result = .error f) ∧
    (∀ t f, (t, .error f) ∈ results → ∃ x : Error, f = .error x ∧ x.kind.isA .parse = true ∧
      x.context.catalogue = .text t) ∧
    ((∃ es, d.endpoints = .ok es) ↔ ∀ c ∈ results, ∃ e, c.2 = .ok e) ∧
    (∀ es, d.endpoints = .ok es ↔
      List.Forall₂ (fun t e => (t, .ok e) ∈ results) d.catalogueTitles es) ∧
    (∀ f, d.endpoints = .error f ↔ ∃ before t after, d.catalogueTitles = before ++ t :: after ∧
      (∀ x ∈ before, ∃ e, (x, .ok e) ∈ results) ∧ (t, .error f) ∈ results) := by
  rw [askCheck_result] at hc
  have hok : ∀ t e, (t, .ok e) ∈ results ↔ d.endpoint? t = .ok (some e) :=
    fun t e => mem_check_iff hc
  have herror : ∀ t f, (t, .error f) ∈ results ↔ d.endpoint? t = .error f :=
    fun t f => mem_check_iff hc
  have hall : ∀ es, d.endpoints = .ok es ↔
      List.Forall₂ (fun t e => (t, .ok e) ∈ results) d.catalogueTitles es := by
    intro es
    simp only [hok]
    exact endpoints_eq_ok_iff
  refine ⟨⟨?_, ?_⟩, ?_, ?_, ?_, exists_endpoints_iff hc, hall, ?_⟩
  · intro t
    rw [check_titles hc, List.mem_eraseDups]
  · rw [check_titles hc]
    exact idxOf_eraseDups d.catalogueTitles
  · intro t e
    rw [askEndpoint_result, hok]
  · intro t f
    rw [askEndpoint_result, herror]
  · intro t f hmem
    have hk := (check_entry hc hmem).2 f rfl
    obtain ⟨x, rfl, hx⟩ := endpoint?_error hd ((herror t f).1 hmem) hk
    exact ⟨x, rfl, hk, hx⟩
  · intro f
    simp only [hok, herror]
    exact endpoints_eq_error_iff

/-- A file in which a title comes twice, first without anything else and then with all it needs. -/
def twiceListed : Sight where
  marker := .ok ⟨1, 135⟩
  content := .ok ("catalogue:\n" ++
    "- title: GBV\n" ++
    "- title: KXP\n  config:\n    address: sru\n    database: kxp\n    port: 80\n" ++
    "- title: GBV\n  config:\n    address: sru\n    database: gbv\n    port: 80\n").toUTF8.toList

theorem lookups_agree_twiceListed :
    ∃ d results,
      ((Store.ofPath (Path.ofText "opac.yaml") false).load twiceListed).1.result = .ok d ∧
      d.askCheck.result = .ok results ∧
      results.map (fun c => (c.1, c.2.toOption.isSome)) = [("GBV", false), ("KXP", true)] ∧
      ∃ x : Error, ("GBV", .error (.error x)) ∈ results ∧ x.context.catalogue = .text "GBV" ∧
        (d.askEndpoint "GBV").result = .error (.error x) ∧ d.endpoints = .error (.error x) := by
  have heval : ((Store.ofPath (Path.ofText "opac.yaml") false).load twiceListed).1.result.toOption.bind
      (fun d => d.askCheck.result.toOption.map fun results =>
        (d.catalogueTitles, results.map fun c => (c.1, c.2.toOption.isSome))) =
      some (["GBV", "KXP", "GBV"], [("GBV", false), ("KXP", true)]) := by
    decide +kernel
  obtain ⟨d, hload, hrest⟩ := Option.bind_eq_some_iff.1 heval
  obtain ⟨results, hcheck, heq⟩ := Option.map_eq_some_iff.1 hrest
  obtain ⟨htitles, hresults⟩ := Prod.mk.inj heq
  rw [toOption_eq_some_iff] at hload hcheck
  obtain ⟨_, _, herror, hcontext, _, _, hendpoints⟩ := lookups_agree ⟨_, _, hload⟩ hcheck
  refine ⟨d, results, hload, hcheck, hresults, ?_⟩
  obtain ⟨c, rest, rfl, hc, _⟩ := List.map_eq_cons_iff.1 hresults
  obtain ⟨t, r⟩ := c
  obtain ⟨rfl, hr⟩ := Prod.mk.inj hc
  cases r with
  | ok e => cases hr
  | error f =>
    obtain ⟨x, rfl, _, hx⟩ := hcontext "GBV" f List.mem_cons_self
    refine ⟨x, List.mem_cons_self, hx, (herror "GBV" _).1 List.mem_cons_self, ?_⟩
    exact (hendpoints _).2 ⟨[], "GBV", ["KXP", "GBV"], htitles,
      fun x hx => absurd hx List.not_mem_nil, List.mem_cons_self⟩

end Definition

end LibraryCatalogue
