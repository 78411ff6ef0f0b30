import LibraryCatalogue.Proofs.Definition.Outline
import LibraryCatalogue.Proofs.Store.Run

/-!
# Titles of loaded definitions

The title that an entry is looked up by is the one that is written in it, and named by the errors
about it.

* `writtenCatalogues`, `writtenDoctypes`, `Entry.MadeOf`, `madeOf_of_ofDocument` — every entry that a
  document writes is kept, in its place, under the title that is made out of it;
* `Entry.Titled`, `titled_ofRaw` — an entry whose title is written in it;
* `Contents.Titled`, `titled_of_ofDocument` — what a document says has titled entries only;
* `Definition.Loaded`, `Loaded.exists_document`, `titled_of_loaded` — and so has a definition that a
  store loaded.
-/

namespace LibraryCatalogue

open Schema Value Results

/-! ## What is written -/

/-- The title that is made out of a written entry: a text, or the text of a number or of bytes. -/
def writtenTitle? : Value → Option String
  | .map raw => (Value.get? raw "title").bind fun t => (Schema.numericText t).toOption
  | _ => none

/-- The entries written under a name, where one mapping or nothing may stand for a list. -/
def entriesUnder (fields : Entries) (name : String) : List Value :=
  ((Value.get? fields name).getD .null).asList.itemsOf?.getD []

/-- The catalogues that a document writes. -/
def writtenCatalogues (document : Entries) : List Value :=
  entriesUnder document "catalogue"

/-- The document types that a document writes. -/
def writtenDoctypes (document : Entries) : List Value :=
  match Value.get? document "doctypes" with
  | some (.map block) => entriesUnder block "type"
  | _ => []

/-- An entry is what was made of a written one. -/
def Entry.MadeOf (v : Value) (e : Entry) : Prop :=
  ∃ raw, v = .map raw ∧ writtenTitle? v = some e.title ∧ e = Entry.ofRaw raw e.title

theorem Entry.WrittenIn.madeOf {e : Entry} {raw : Entries} (h : e.WrittenIn raw) :
    e.MadeOf (.map raw) := by
  obtain ⟨v, hget, hwritten⟩ := h.title
  refine ⟨raw, rfl, ?_, h.kept⟩
  simp only [writtenTitle?, hget, Option.bind_some, numericText_eq_ok_iff.2 hwritten]
  rfl

theorem madeOf_of_row {entries : Entries} {name : String} {es : List Entry}
    (h : RowOf Entry.WrittenIn entries name es) :
    List.Forall₂ Entry.MadeOf (entriesUnder entries name) es := by
  obtain ⟨vs, hrow, hall⟩ := h
  rw [entriesUnder, itemsOf?_of_rowAt? hrow]
  refine hall.imp fun v e hv => ?_
  obtain ⟨raw, rfl, he⟩ := hv
  exact he.madeOf

theorem writtenDoctypes_of_blockAt? {document block : Entries}
    (h : blockAt? document "doctypes" = some block) :
    writtenDoctypes document = entriesUnder block "type" := by
  unfold blockAt? at h
  unfold writtenDoctypes
  cases hget : get? document "doctypes" with
  | none =>
    rw [hget] at h
    cases h
    rfl
  | some v =>
    rw [hget] at h
    cases v <;> cases h <;> rfl

/-- **A document that is accepted keeps all its entries**, in their places. -/
theorem Contents.madeOf_of_ofDocument {document : Entries} {source : String} {c : Contents}
    (h : Contents.ofDocument document source = .ok c) :
    List.Forall₂ Entry.MadeOf (writtenCatalogues document) c.catalogues ∧
      List.Forall₂ Entry.MadeOf (writtenDoctypes document) c.doctypes := by
  obtain ⟨_, hcatalogues, block, hblock, _, hdoctypes⟩ := Contents.ofDocument_eq_ok_iff.1 h
  rw [writtenDoctypes_of_blockAt? hblock]
  exact ⟨madeOf_of_row hcatalogues, madeOf_of_row hdoctypes⟩

/-! ## Entries with their titles -/

/-- The title of an entry is the one that is written in it. -/
def Entry.Titled (e : Entry) : Prop :=
  rawTitle e.fields = .text e.title

theorem Entry.titled_ofRaw (raw : Entries) (title : String) : (Entry.ofRaw raw title).Titled := by
  unfold Titled rawTitle Entry.ofRaw
  rw [Value.get?_freezeEntries, Value.get?_insert, if_pos rfl]
  rfl

theorem Entry.MadeOf.titled {v : Value} {e : Entry} (h : e.MadeOf v) : e.Titled := by
  obtain ⟨raw, _, _, he⟩ := h
  rw [he]
  exact Entry.titled_ofRaw raw e.title

/-- All entries of a definition are titled. -/
structure Contents.Titled (c : Contents) : Prop where
  catalogues : ∀ e ∈ c.catalogues, e.Titled
  doctypes : ∀ e ∈ c.doctypes, e.Titled

/-- **What a document says has titled entries only.** -/
theorem Contents.titled_of_ofDocument {document : Entries} {source : String} {c : Contents}
    (h : Contents.ofDocument document source = .ok c) : c.Titled := by
  obtain ⟨hcatalogues, hdoctypes⟩ := Contents.madeOf_of_ofDocument h
  constructor
  · intro e he
    obtain ⟨v, _, hv⟩ := exists_left_of_forall₂ hcatalogues e he
    exact hv.titled
  · intro e he
    obtain ⟨v, _, hv⟩ := exists_left_of_forall₂ hdoctypes e he
    exact hv.titled

/-! ## Loaded definitions -/

/-- What is read of a file is what some document says: nothing is what the empty one says. -/
theorem Store.exists_document_of_readResult {r : Source.Readers} {p : Path} {fallback : Bool}
    {content : Except FileFault (List UInt8)} {c : Contents}
    (h : readResult r p fallback content = .ok c) :
    ∃ document, Contents.ofDocument document p.text = .ok c := by
  rcases readResult_eq_ok_iff.1 h with hc | ⟨_, rfl, _⟩
  · obtain ⟨document, _, hdocument⟩ := bind_eq_ok_iff.1 hc
    exact ⟨document, hdocument⟩
  · exact ⟨[], rfl⟩

/-- Some store loaded a definition, from whatever its path showed. -/
def Definition.Loaded (d : Definition) : Prop :=
  ∃ (s : Store) (now : Sight), (s.load now).1.result = .ok d

/-- **A loaded definition is what some document says.** -/
theorem Definition.Loaded.exists_document {d : Definition} (h : d.Loaded) :
    ∃ document, Contents.ofDocument document d.source = .ok d.contents := by
  obtain ⟨s, now, hd⟩ := h
  rcases s.load_cases now with ⟨m, c, _, hread, hr, _⟩ | ⟨f, hr, _⟩
  · rw [hr] at hd
    cases hd
    exact Store.exists_document_of_readResult hread
  · rw [hr] at hd
    cases hd

/-- **The entries of a loaded definition are titled.** -/
theorem Definition.titled_of_loaded {d : Definition} (h : d.Loaded) : d.contents.Titled := by
  obtain ⟨_, hdocument⟩ := h.exists_document
  exact Contents.titled_of_ofDocument hdocument

end LibraryCatalogue
