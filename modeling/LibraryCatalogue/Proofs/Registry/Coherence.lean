import LibraryCatalogue.Proofs.Registry.Checkup

/-!
# Titles that are listed, and titles that are found

The title of an entry is made out when its document is checked, written back into the entry as a text,
and read again when the entry is resolved.  The two readings agree: whatever is listed is found, under
the title that it was listed with.

* `find?_of_madeOf` — the first entry with a title is made of the first that is written with it;
* `Endpoint.title_of_ofEntry`, `DocumentType.title_of_ofEntry` — an entry resolves to something with
  its own title;
* `Coherent`, `coherent_of_written` — a list of titles and the lookup of a title fit together;
* `listings_coherent` — they do for the catalogues and for the document types of every document.
-/

namespace LibraryCatalogue

open Results

/-- The first entry with a title is made of the first that is written with it. -/
theorem find?_of_madeOf {written : List Value} {entries : List Entry}
    (h : List.Forall₂ Entry.MadeOf written entries) (title : String) (e : Entry) :
    entries.find? (·.title == title) = some e ↔
      ∃ raw, written.find? (writtenTitle? · == some title) = some (.map raw) ∧
        e = Entry.ofRaw raw title := by
  induction h with
  | nil => simp
  | @cons v x written entries hmade _ ih =>
    obtain ⟨raw, rfl, htitle, hx⟩ := hmade
    by_cases hname : x.title = title
    · subst hname
      rw [List.find?_cons_of_pos (by simp), List.find?_cons_of_pos (by simp [htitle])]
      simp only [Option.some.injEq, Value.map.injEq, exists_eq_left', ← hx]
      exact eq_comm
    · rw [List.find?_cons_of_neg (by simp [hname]), List.find?_cons_of_neg (by simp [htitle, hname])]
      exact ih

/-! ## What entries resolve to -/

namespace Schema

/-- **A check that reads the title of a titled entry gets that title**, whatever else it reads. -/
theorem title_of_check {α β : Type} {e : Entry} (he : e.Titled) {rest : Checked β}
    {make : String × β → Checked α} (title : α → String)
    (hmake : ∀ p a, make p = .ok a → title a = p.1) {a : α}
    (h : ((field (Value.thawEntries e.fields) "title" numericText).both rest >>= make) = .ok a) :
    title a = e.title := by
  obtain ⟨p, hp, ha⟩ := bind_eq_ok_iff.1 h
  obtain ⟨t, ht, htext⟩ := field_eq_ok_iff.1 (both_eq_ok_iff.1 hp).1
  rw [hmake p a ha]
  unfold Entry.Titled rawTitle at he
  rw [Value.get?_thawEntries] at ht
  obtain ⟨v, hv, rfl⟩ := Option.map_eq_some_iff.1 ht
  rw [hv] at he
  obtain rfl : v = .text e.title := he
  exact (Except.ok.inj htext).symm

theorem CatalogueEntry.title_of_resolve {e : CatalogueEntry} {x : Endpoint}
    (h : e.resolve = .ok x) : x.title = e.title := by
  obtain ⟨_, _, heq⟩ := bind_eq_ok_iff.1 h
  cases heq
  rfl

end Schema

/-- **An endpoint has the title of its entry.** -/
theorem Endpoint.title_of_ofEntry {e : Entry} (he : e.Titled) {x : Endpoint}
    (h : Endpoint.ofEntry e.fields = .ok x) : x.title = e.title := by
  simp only [Endpoint.ofEntry, Value.thaw] at h
  split at h
  · cases h
  · rename_i entry hcheck
    rw [Schema.CatalogueEntry.title_of_resolve (mapError_eq_ok_iff.1 h)]
    refine Schema.title_of_check he Schema.CatalogueEntry.title ?_
      hcheck
    intro p a ha
    cases ha
    rfl

/-- **A document type has the title of its entry.** -/
theorem DocumentType.title_of_ofEntry {e : Entry} (he : e.Titled) {x : DocumentType}
    (h : DocumentType.ofEntry e.fields = .ok x) : x.title = e.title := by
  simp only [DocumentType.ofEntry, Value.thaw] at h
  split at h
  · cases h
  · rename_i entry hcheck
    cases h
    refine Schema.title_of_check he Schema.DoctypeEntry.title ?_
      hcheck
    intro p a ha
    cases ha
    rfl

/-! ## Lists and lookups -/

/-- The titles that are listed, the lookup of a title and the list of all that is looked up fit
together, and belong to what is written. -/
structure Coherent {ε α : Type} (written : List Value) (resolveEntry : Entries → Except ε α)
    (title : α → String) (titles : List String) (lookup : String → Except ε (Option α))
    (all : Except ε (List α)) : Prop where
  /-- The titles are those of the written entries, in order. -/
  listed : written.map writtenTitle? = titles.map some
  /-- Nothing is found for a title exactly when it is not listed. -/
  absent_iff : ∀ name, lookup name = .ok none ↔ name ∉ titles
  /-- What is found for a title comes from the first entry that is written with it. -/
  found_iff : ∀ name x, lookup name = .ok (some x) ↔
    ∃ raw, written.find? (writtenTitle? · == some name) = some (.map raw) ∧
      resolveEntry (Entry.ofRaw raw name).fields = .ok x
  /-- It has the title that it was looked up by. -/
  titled : ∀ name x, lookup name = .ok (some x) → title x = name
  /-- All together have the listed titles, in order. -/
  all_titled : ∀ xs, all = .ok xs → xs.map title = titles

theorem coherent_of_written {ε α : Type} {written : List Value} {entries : List Entry}
    (hwritten : List.Forall₂ Entry.MadeOf written entries) (htitled : ∀ e ∈ entries, e.Titled)
    {resolveEntry : Entries → Except ε α} {title : α → String}
    (htitle : ∀ (e : Entry) x, e.Titled → resolveEntry e.fields = .ok x → title x = e.title)
    {lookup : String → Except ε (Option α)} {all : Except ε (List α)}
    (hlookup : ∀ name, lookup name =
      match entries.find? (·.title == name) with
      | none => .ok none
      | some e => (resolveEntry e.fields).map some)
    (hall : ∀ xs, all = .ok xs →
      List.Forall₂ (fun t x => lookup t = .ok (some x)) (entries.map (·.title)) xs) :
    Coherent written resolveEntry title (entries.map (·.title)) lookup all := by
  have hfound : ∀ name x, lookup name = .ok (some x) ↔
      ∃ e, entries.find? (·.title == name) = some e ∧ resolveEntry e.fields = .ok x := by
    intro name x
    rw [hlookup]
    cases entries.find? (·.title == name) with
    | none => simp
    | some e => simp [map_eq_ok_iff]
  have hlookupTitle : ∀ name x, lookup name = .ok (some x) → title x = name := by
    intro name x h
    obtain ⟨e, he, hx⟩ := (hfound name x).1 h
    rw [htitle e x (htitled e (List.mem_of_find?_eq_some he)) hx]
    simpa using List.find?_some he
  refine ⟨?_, ?_, ?_, hlookupTitle, ?_⟩
  · clear hlookup hall hfound htitled
    induction hwritten with
    | nil => rfl
    | cons hmade _ ih =>
      obtain ⟨_, _, hname, _⟩ := hmade
      rw [List.map_cons, List.map_cons, List.map_cons, hname, ih]
  · intro name
    rw [hlookup]
    cases hfind : entries.find? (·.title == name) with
    | none => simpa [List.find?_eq_none] using hfind
    | some e =>
      have hmem := List.mem_of_find?_eq_some hfind
      have hname : e.title = name := by simpa using List.find?_some hfind
      simp only [map_eq_ok_iff, List.mem_map, not_exists, not_and]
      constructor
      · rintro ⟨x, _, hx⟩
        cases hx
      · intro habsent
        exact absurd hname (habsent e hmem)
  · intro name x
    simp only [hfound, find?_of_madeOf hwritten]
    constructor
    · rintro ⟨_, ⟨raw, hraw, rfl⟩, hx⟩
      exact ⟨raw, hraw, hx⟩
    · rintro ⟨raw, hraw, hx⟩
      exact ⟨_, ⟨raw, hraw, rfl⟩, hx⟩
  · intro xs hxs
    have heach := (hall xs hxs).imp fun t x h => hlookupTitle t x h
    rw [← List.forall₂_eq_eq_eq, List.forall₂_map_left_iff]
    exact heach.flip

namespace Definition

/-- All document types that are listed, when they can be had, are found one by one. -/
theorem doctype?_of_doctypes {d : Definition} {ts : List DocumentType} (h : d.doctypes = .ok ts) :
    List.Forall₂ (fun title t => d.doctype? title = .ok (some t)) d.doctypeTitles ts := by
  refine (mapM_eq_ok_iff.1 h).imp fun title t hrequire => ?_
  obtain ⟨t?, ht, hsome⟩ := bind_eq_ok_iff.1 hrequire
  cases t? with
  | none => cases hsome
  | some t' =>
    cases hsome
    exact ht

/-- **Listing and lookup fit together in what a document says.**  The title of an entry is a text that
is written in it; the titles that are listed are those made out of what is written, in order; nothing
is found for a title exactly when it is not listed; what is found has the title that it was looked up
by, and comes from the first entry that is written with it; and where all of them can be had, they
have the listed titles, in order.  All this holds of the catalogues and of the document types. -/
theorem listings_coherent (d : Definition) {document : Entries}
    (h : Contents.ofDocument document d.source = .ok d.contents) :
    d.contents.Titled ∧
    Coherent (writtenCatalogues document) Endpoint.ofEntry Endpoint.title d.catalogueTitles
      (fun name => (d.askEndpoint name).result) d.endpoints ∧
    Coherent (writtenDoctypes document) DocumentType.ofEntry DocumentType.title d.doctypeTitles
      d.doctype? d.doctypes := by
  obtain ⟨hcatalogues, hdoctypes⟩ := Contents.madeOf_of_ofDocument h
  have htitled := Contents.titled_of_ofDocument h
  refine ⟨htitled, ?_, ?_⟩
  · refine coherent_of_written hcatalogues htitled.catalogues
      (fun _ _ he => Endpoint.title_of_ofEntry he) ?_ ?_
    · exact d.askEndpoint_result
    · intro es hes
      simp only [askEndpoint_result]
      exact endpoints_eq_ok_iff.1 hes
  · refine coherent_of_written hdoctypes htitled.doctypes
      (fun _ _ he => DocumentType.title_of_ofEntry he) ?_ fun ts => doctype?_of_doctypes
    intro title
    rfl

/-- A document with the title 7 twice, first as a number and then as a text, and a title in bytes. -/
def mixedTitles : Entries :=
  let connection : Value := .map [(.text "address", .text "sru"), (.text "database", .text "x"),
    (.text "port", .int 80)]
  [(.text "catalogue", .list [
      .map [(.text "title", .int 7), (.text "config", connection)],
      .map [(.text "title", .text "7")]]),
    (.text "doctypes", .map [(.text "type", .map [(.text "title", .bytes "map".toUTF8.toList)])])]

theorem listings_coherent_mixedTitles :
    ∃ c, Contents.ofDocument mixedTitles "opac.yaml" = .ok c ∧
      let d : Definition := ⟨"opac.yaml", 1, none, c⟩
      d.catalogueTitles = ["7", "7"] ∧ d.doctypeTitles = ["map"] ∧
      (d.askEndpoint "KXP").result = .ok none ∧
      (∃ e, (d.askEndpoint "7").result = .ok (some e) ∧ e.title = "7") ∧
      ∃ t, d.doctype? "map" = .ok (some t) ∧ t.title = "map" := by
  have heval : (Contents.ofDocument mixedTitles "opac.yaml").toOption.bind (fun c =>
      let d : Definition := ⟨"opac.yaml", 1, none, c⟩
      (d.endpoint? "7").toOption.join.bind fun e => (d.doctype? "map").toOption.join.map fun t =>
        (d.catalogueTitles, d.doctypeTitles)) = some (["7", "7"], ["map"]) := by
    decide +kernel
  obtain ⟨c, hc, heval⟩ := Option.bind_eq_some_iff.1 heval
  obtain ⟨e, he, heval⟩ := Option.bind_eq_some_iff.1 heval
  obtain ⟨t, ht, htitles⟩ := Option.map_eq_some_iff.1 heval
  obtain ⟨hcatalogues, hdoctypes⟩ := Prod.mk.inj htitles
  rw [Option.join_eq_some_iff, toOption_eq_some_iff] at he ht
  rw [toOption_eq_some_iff] at hc
  obtain ⟨_, hendpoints, htypes⟩ := listings_coherent ⟨"opac.yaml", 1, none, c⟩ hc
  rw [← askEndpoint_result] at he
  refine ⟨c, hc, hcatalogues, hdoctypes, ?_, ⟨e, he, hendpoints.titled "7" e he⟩,
    ⟨t, ht, htypes.titled "map" t ht⟩⟩
  rw [hendpoints.absent_iff, hcatalogues]
  decide

end Definition

end LibraryCatalogue
