import LibraryCatalogue.Proofs.Registry.Checkup

/-!
# Entries that are shadowed

An entry is shadowed when an earlier one has its title.  Questions go over titles rather than over
entries, and a title always stands for its first entry, so that a shadowed entry can be taken out of a
definition, whatever it holds, and no question is answered differently.

* `Entry.unshadowed`, `Definition.unshadowed` — what is left when shadowed entries are taken out;
* `find?_unshadowed`, `titles_unshadowed` — the first entry with a title stays, and every title is
  listed once;
* `firstWithCode_unshadowed` — a walk over the document types passes a repeated title as it passed it
  before;
* `shadowed_entries_inert` — every question has the same answer.
-/

namespace LibraryCatalogue

/-- The entries but for those whose titles came before; `seen` are the titles before all of them. -/
def Entry.unshadowed (seen : List String) : List Entry → List Entry
  | [] => []
  | x :: rest =>
    if x.title ∈ seen then unshadowed (x.title :: seen) rest
    else x :: unshadowed (x.title :: seen) rest

/-- The contents of a definition without the entries that an earlier one shadows. -/
def Contents.unshadowed (c : Contents) : Contents :=
  ⟨Entry.unshadowed [] c.catalogues, Entry.unshadowed [] c.doctypes⟩

/-- The definition without the entries that an earlier one shadows. -/
def Definition.unshadowed (d : Definition) : Definition :=
  { d with contents := d.contents.unshadowed }

namespace Entry

/-- **The first entry with a title stays.** -/
theorem find?_unshadowed {seen : List String} {title : String} (h : title ∉ seen)
    (entries : List Entry) :
    (unshadowed seen entries).find? (·.title == title) = entries.find? (·.title == title) := by
  induction entries generalizing seen with
  | nil => rfl
  | cons x rest ih =>
    rw [unshadowed]
    by_cases hx : x.title = title
    · rw [if_neg (hx ▸ h), List.find?_cons_of_pos (by simp [hx]), List.find?_cons_of_pos (by simp [hx])]
    · have hnew : title ∉ x.title :: seen := by simp [h, Ne.symm hx]
      have hrest := ih hnew
      rw [List.find?_cons_of_neg (l := rest) (by simp [hx])]
      split
      · exact hrest
      · rw [List.find?_cons_of_neg (by simp [hx])]
        exact hrest

/-- **Every title is listed once**, in the order of first occurrences. -/
theorem titles_unshadowed (seen : List String) (entries : List Entry) :
    (unshadowed seen entries).map (·.title) =
      ((entries.map (·.title)).filter (· ∉ seen)).eraseDups := by
  induction entries generalizing seen with
  | nil => rfl
  | cons x rest ih =>
    rw [unshadowed, List.map_cons]
    split
    · rename_i hx
      rw [ih, List.filter_cons_of_neg (by simpa using hx)]
      congr 1
      apply List.filter_congr
      intro title _
      by_cases ht : title = x.title
      · simp [ht, hx]
      · simp [ht]
    · rename_i hx
      rw [List.filter_cons_of_pos (by simpa using hx), List.eraseDups_cons, List.map_cons, ih,
        List.filter_filter]
      congr 2
      apply List.filter_congr
      intro title _
      by_cases ht : title = x.title <;> simp [ht]

end Entry

namespace Definition

variable (d : Definition)

theorem catalogueTitles_unshadowed :
    d.unshadowed.catalogueTitles = d.catalogueTitles.eraseDups := by
  simp [catalogueTitles, unshadowed, Contents.unshadowed, Entry.titles_unshadowed]

theorem findCatalogue?_unshadowed (title : String) :
    d.unshadowed.findCatalogue? title = d.findCatalogue? title :=
  Entry.find?_unshadowed List.not_mem_nil d.contents.catalogues

theorem endpoint?_unshadowed (name : String) : d.unshadowed.endpoint? name = d.endpoint? name := by
  unfold endpoint?
  rw [findCatalogue?_unshadowed]

theorem doctype?_unshadowed (title : String) : d.unshadowed.doctype? title = d.doctype? title := by
  unfold doctype? findDoctype?
  rw [unshadowed, Contents.unshadowed, Entry.find?_unshadowed List.not_mem_nil]

theorem specialMappings_unshadowed (catalogue : String) :
    d.unshadowed.specialMappings catalogue = d.specialMappings catalogue := by
  unfold specialMappings
  rw [findCatalogue?_unshadowed]

/-- The check asks for every title once, however often it is listed. -/
theorem check_unshadowed : d.unshadowed.check = d.check := by
  have hone : d.unshadowed.checkOne = d.checkOne := by
    funext title
    unfold checkOne
    rw [endpoint?_unshadowed]
  unfold check
  rw [catalogueTitles_unshadowed, eraseDups_of_nodup (nodup_eraseDups _), hone]

variable {d}

/-- **A walk over the document types passes a repeated title as it passed it before.**  The titles
seen so far stand for document types without the code. -/
theorem firstWithCode_unshadowed {code : String} {seen : List String}
    (hseen : ∀ title ∈ seen, ∃ t, d.requireDoctype title .null = .ok t ∧ t.hasCode code = false)
    (entries : List Entry) :
    d.firstWithCode code ((Entry.unshadowed seen entries).map (·.title)) =
      d.firstWithCode code (entries.map (·.title)) := by
  induction entries generalizing seen with
  | nil => rfl
  | cons x rest ih =>
    -- Once the title of x was passed, the walk over the rest is the same.
    have hpassed : ∀ t, d.requireDoctype x.title .null = .ok t → t.hasCode code = false →
        d.firstWithCode code ((Entry.unshadowed (x.title :: seen) rest).map (·.title)) =
          d.firstWithCode code (rest.map (·.title)) := by
      intro t ht hno
      exact ih (List.forall_mem_cons.2 ⟨⟨t, ht, hno⟩, hseen⟩)
    rw [Entry.unshadowed, List.map_cons, firstWithCode]
    split
    · rename_i hx
      obtain ⟨t, ht, hno⟩ := hseen x.title hx
      rw [hpassed t ht hno, ht]
      simp [bind, Except.bind, hno]
    · rw [List.map_cons, firstWithCode]
      cases ht : d.requireDoctype x.title .null with
      | error e => rfl
      | ok t =>
        cases hno : t.hasCode code with
        | true => simp [bind, Except.bind, hno]
        | false => simp only [bind, Except.bind, hno, hpassed t ht hno]

theorem resolve_unshadowed (code catalogue : String) :
    d.unshadowed.resolve code catalogue = d.resolve code catalogue := by
  have hrequire : d.unshadowed.requireDoctype = d.requireDoctype :=
    requireDoctype_congr rfl d.doctype?_unshadowed
  refine resolve_congr hrequire d.specialMappings_unshadowed ?_ code catalogue
  intro code
  rw [firstWithCode_congr hrequire]
  exact firstWithCode_unshadowed (fun _ hm => absurd hm List.not_mem_nil) d.contents.doctypes

/-- **Shadowed entries are inert.**  Without the entries whose title an earlier one of their list has,
a definition gives the same answer or the same failure to every question, with the same events on the
log: for a catalogue, for the check of all catalogues, for a document type and for the meaning of a
code. -/
theorem shadowed_entries_inert (d : Definition) :
    (∀ name, d.unshadowed.askEndpoint name = d.askEndpoint name) ∧
    d.unshadowed.askCheck = d.askCheck ∧
    (∀ title, d.unshadowed.doctype? title = d.doctype? title) ∧
    ∀ code catalogue, d.unshadowed.askMeaning code catalogue = d.askMeaning code catalogue := by
  refine ⟨?_, ?_, d.doctype?_unshadowed, ?_⟩
  · intro name
    unfold askEndpoint
    rw [endpoint?_unshadowed]
    rfl
  · unfold askCheck
    rw [check_unshadowed]
    rfl
  · intro code catalogue
    unfold askMeaning
    rw [resolve_unshadowed]

end Definition

end LibraryCatalogue
