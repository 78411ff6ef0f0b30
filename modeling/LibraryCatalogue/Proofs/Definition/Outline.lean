import LibraryCatalogue.Definition
import LibraryCatalogue.Proofs.Schema.Unwritable
import LibraryCatalogue.Proofs.Schema.Written

/-!
# What loading does to the entries of a document

Only the outline of a document is checked when it is loaded: its keys, where its entries are, and that
each has a title.  The entries themselves are to come through unharmed.

* `TextKeys`, `Entry.WrittenIn`, `Contents.WrittenIn` — what is kept of a document, as a relation;
  `Contents.ofDocument_eq_ok_iff` says that this, and nothing else, is what loading gives;
* `Outlined` — a document with an outline; `exists_writtenIn_iff` says that these are loaded;
* `Contents.Unwritable` — a document with a title that cannot be written; `check_eq_unwritable_iff` says
  that loading is given up at these;
* `Entry.Keeps`, `Contents.Keeps` — what is kept, told by what can be read of it: the same keys, the
  title as a text, and all else frozen;
* `Titles.check`, `Contents.pairUp`, `Contents.zipped` — the same in two steps: the titles are checked
  alone, and then paired with entries that are looked up in the document once more;
* `Contents.zipped_eq` — the second step can always be done, and no entry is lost in it;
* `loading_keeps_entries` — a document is loaded with all of its entries, or is a parsing error, or is
  given up;
* `overlong_title_escapes` — a document that is given up.
-/

namespace LibraryCatalogue

open Schema Value Results

/-! ## What is written -/

/-- All keys of a mapping are texts. -/
def TextKeys (entries : Entries) : Prop :=
  ∀ e ∈ entries, ∃ s, e.1 = .text s

theorem foreignKeys_eq_nil_iff {entries : Entries} : foreignKeys entries = [] ↔ TextKeys entries := by
  unfold foreignKeys TextKeys
  rw [List.filterMap_eq_nil_iff]
  refine forall₂_congr fun e _ => ?_
  obtain ⟨k, v⟩ := e
  cases k <;> simp

/-- An entry is what is kept of the mapping that it is written in. -/
structure Entry.WrittenIn (e : Entry) (raw : Entries) : Prop where
  keys : TextKeys raw
  title : SaysAt raw "title" e.title
  kept : e = Entry.ofRaw raw e.title

theorem Schema.titled_eq_ok_iff {v : Value} {e : Entry} :
    titled v = .ok e ↔ ∃ raw, v = .map raw ∧ e.WrittenIn raw := by
  refine mapping_bind_eq_ok_iff fun raw => ?_
  simp only [bind_eq_ok_iff, andFaults_eq_ok_iff, field_text_iff, foreignKeys_eq_nil_iff]
  constructor
  · rintro ⟨title, ⟨htitle, hkeys⟩, heq⟩
    cases heq
    exact ⟨hkeys, htitle, rfl⟩
  · intro h
    exact ⟨e.title, ⟨h.title, h.keys⟩, congrArg Except.ok h.kept.symm⟩

/-- The document types of a document are those of its block. -/
theorem Schema.optional_doctypesBlock (entries : Entries) (name : String) :
    optional entries name [] doctypesBlock =
      Checked.under (.field name) (match blockAt? entries name with
        | some block => (optional block "type" [] titledList).andFaults (foreignKeys block)
        | none => .fail (.notMapping "_DoctypesBlock")) := by
  refine optional_block entries name rfl rfl (fun _ => rfl) ?_
  intro v hnull hmap
  cases v with
  | null => exact absurd rfl hnull
  | map block => exact absurd rfl (hmap block)
  | _ => rfl

theorem Schema.optional_titledList_iff {entries : Entries} {name : String} {es : List Entry} :
    optional entries name [] titledList = .ok es ↔ RowOf Entry.WrittenIn entries name es :=
  optional_entryList_iff titled_eq_ok_iff

namespace Contents

/-- The contents of a definition are what is kept of the document that they are written in. -/
structure WrittenIn (c : Contents) (document : Entries) : Prop where
  keys : TextKeys document
  catalogues : RowOf Entry.WrittenIn document "catalogue" c.catalogues
  doctypes : ∃ block, blockAt? document "doctypes" = some block ∧ TextKeys block ∧
    RowOf Entry.WrittenIn block "type" c.doctypes

theorem check_eq_ok_iff {document : Entries} {c : Contents} :
    check document = .ok c ↔ c.WrittenIn document := by
  have hdoctypes {es : List Entry} : optional document "doctypes" [] doctypesBlock = .ok es ↔
      ∃ block, blockAt? document "doctypes" = some block ∧ TextKeys block ∧
        RowOf Entry.WrittenIn block "type" es := by
    rw [optional_doctypesBlock, under_eq_ok_iff]
    cases blockAt? document "doctypes" with
    | none => simp [Checked.fail]
    | some block =>
      simp only [andFaults_eq_ok_iff, optional_titledList_iff, foreignKeys_eq_nil_iff,
        Option.some.injEq, exists_eq_left', and_comm]
  unfold check
  rw [bind_eq_ok_iff]
  simp only [andFaults_eq_ok_iff, both_eq_ok_iff, optional_titledList_iff, hdoctypes,
    foreignKeys_eq_nil_iff]
  constructor
  · rintro ⟨⟨catalogues, doctypes⟩, ⟨⟨hcatalogues, hdoctypes⟩, hkeys⟩, heq⟩
    cases heq
    exact ⟨hkeys, hcatalogues, hdoctypes⟩
  · intro h
    exact ⟨(c.catalogues, c.doctypes), ⟨⟨h.catalogues, h.doctypes⟩, h.keys⟩, rfl⟩

/-- **What is loaded of a document is what is written in it**, and nothing else. -/
theorem ofDocument_eq_ok_iff {document : Entries} {source : String} {c : Contents} :
    ofDocument document source = .ok c ↔ c.WrittenIn document := by
  rw [← check_eq_ok_iff]
  exact mapError_eq_ok_iff

end Contents

/-! ## Documents with an outline -/

/-- Under a name stands a row of mappings that have texts for keys, and titles. -/
def TitledRow (entries : Entries) (name : String) : Prop :=
  ∃ vs, rowAt? entries name = some vs ∧
    ∀ v ∈ vs, ∃ raw, v = .map raw ∧ TextKeys raw ∧ ∃ title, SaysAt raw "title" title

/-- A document has the outline of a definition: its keys are texts, and catalogues and document types,
as far as there are any, are where they are expected and have titles. -/
structure Outlined (document : Entries) : Prop where
  keys : TextKeys document
  catalogues : TitledRow document "catalogue"
  doctypes : ∃ block, blockAt? document "doctypes" = some block ∧ TextKeys block ∧
    TitledRow block "type"

theorem titledRow_iff {entries : Entries} {name : String} :
    TitledRow entries name ↔ ∃ es, RowOf Entry.WrittenIn entries name es := by
  have hwritten {raw : Entries} : (∃ e : Entry, e.WrittenIn raw) ↔
      TextKeys raw ∧ ∃ title, SaysAt raw "title" title := by
    constructor
    · rintro ⟨e, he⟩
      exact ⟨he.keys, e.title, he.title⟩
    · rintro ⟨hkeys, title, htitle⟩
      exact ⟨Entry.ofRaw raw title, hkeys, htitle, rfl⟩
  simp only [exists_rowOf_iff, hwritten, TitledRow]

/-- **The documents with an outline are those that something is loaded of.** -/
theorem Outlined.exists_writtenIn_iff {document : Entries} :
    (∃ c : Contents, c.WrittenIn document) ↔ Outlined document := by
  constructor
  · rintro ⟨c, hkeys, hcatalogues, block, hblock, hblockKeys, hdoctypes⟩
    exact ⟨hkeys, titledRow_iff.2 ⟨_, hcatalogues⟩, block, hblock, hblockKeys,
      titledRow_iff.2 ⟨_, hdoctypes⟩⟩
  · rintro ⟨hkeys, hcatalogues, block, hblock, hblockKeys, hdoctypes⟩
    obtain ⟨catalogues, hcatalogues⟩ := titledRow_iff.1 hcatalogues
    obtain ⟨doctypes, hdoctypes⟩ := titledRow_iff.1 hdoctypes
    exact ⟨⟨catalogues, doctypes⟩, hkeys, hcatalogues, block, hblock, hblockKeys, hdoctypes⟩

/-! ## Documents that are given up -/

/-- A title in a document is an integer that cannot be written. -/
def Contents.Unwritable (document : Entries) : Prop :=
  InRow (OverlongAt · "title") document "catalogue" ∨
    ∃ block, blockAt? document "doctypes" = some block ∧ InRow (OverlongAt · "title") block "type"

theorem Schema.titled_eq_unwritable_iff (v : Value) :
    titled v = .error .unwritable ↔ ∃ raw, v = .map raw ∧ OverlongAt raw "title" := by
  refine mapping_bind_eq_unwritable_iff fun raw => bind_ok_eq_unwritable_iff.trans ?_
  rw [andFaults_eq_unwritable_iff, field_text_eq_unwritable_iff]

theorem Schema.optional_titledList_eq_unwritable_iff {entries : Entries} {name : String} :
    optional entries name [] titledList = .error .unwritable ↔
      InRow (OverlongAt · "title") entries name :=
  optional_entryList_eq_unwritable_iff titled_eq_unwritable_iff

/-- **The check of a document is given up exactly at a title that cannot be written.** -/
theorem Contents.check_eq_unwritable_iff {document : Entries} :
    check document = .error .unwritable ↔ Unwritable document := by
  have hdoctypes : optional document "doctypes" [] doctypesBlock = .error .unwritable ↔
      ∃ block, blockAt? document "doctypes" = some block ∧
        InRow (OverlongAt · "title") block "type" := by
    rw [optional_doctypesBlock, under_eq_unwritable_iff]
    cases blockAt? document "doctypes" with
    | none => simp [fail_ne_unwritable]
    | some block =>
      simp only [andFaults_eq_unwritable_iff, optional_titledList_eq_unwritable_iff,
        Option.some.injEq, exists_eq_left']
  refine bind_ok_eq_unwritable_iff.trans ?_
  rw [andFaults_eq_unwritable_iff, both_eq_unwritable_iff, optional_titledList_eq_unwritable_iff,
    hdoctypes]
  rfl

/-- **Loading is given up exactly at a title that cannot be written.** -/
theorem Contents.ofDocument_eq_unwritable_iff {document : Entries} {source : String} :
    ofDocument document source = .error .unwritable ↔ Unwritable document := by
  rw [← check_eq_unwritable_iff]
  unfold ofDocument
  rw [mapError_eq_error_iff]
  constructor
  · rintro ⟨f, hf, hreport⟩
    cases f with
    | unwritable => exact hf
    | faults fs => cases hreport
  · intro h
    exact ⟨_, h, rfl⟩

/-- **A document gives contents, or is a parsing error that names its source, or is given up.** -/
theorem Contents.ofDocument_cases (document : Entries) (source : String) :
    (∃ c, ofDocument document source = .ok c) ∨
      (∃ e fs, check document = .error (.faults fs) ∧ ofDocument document source = .error (.error e) ∧
        e.kind = .parse ∧ e.context.sourcePath = .text source ∧
        e.cause = some (.schema ⟨"_DocumentSpec", fs⟩)) ∨
      check document = .error .unwritable ∧ ofDocument document source = .error .unwritable := by
  unfold ofDocument
  cases check document with
  | ok c => exact Or.inl ⟨c, rfl⟩
  | error f =>
    cases f with
    | faults fs => exact Or.inr (Or.inl ⟨_, fs, rfl, rfl, rfl, rfl, rfl⟩)
    | unwritable => exact Or.inr (Or.inr ⟨rfl, rfl⟩)

/-! ## What can be read of the entries that are kept -/

/-- An entry keeps what is written: the keys in their order, the title as the text that it says, and
what is at any other key, frozen. -/
structure Entry.Keeps (e : Entry) (raw : Entries) : Prop where
  written : SaysAt raw "title" e.title
  keys : e.fields.map (·.1) = raw.map (·.1)
  title : get? e.fields "title" = some (.text e.title)
  others : ∀ key, key ≠ .text "title" → lookup? key e.fields = (lookup? key raw).map freeze
  frozen : freezeEntries e.fields = e.fields

/-- The contents of a definition keep every entry of a document, in its place. -/
structure Contents.Keeps (c : Contents) (document : Entries) : Prop where
  catalogues : RowOf Entry.Keeps document "catalogue" c.catalogues
  doctypes : ∃ block, blockAt? document "doctypes" = some block ∧
    RowOf Entry.Keeps block "type" c.doctypes

theorem Entry.WrittenIn.keeps {e : Entry} {raw : Entries} (h : e.WrittenIn raw) : e.Keeps raw := by
  obtain ⟨_, htitle, hkept⟩ := h
  have hfields : e.fields = freezeEntries (insert (.text "title") (.text e.title) raw) :=
    congrArg Entry.fields hkept
  obtain ⟨v, hget, _⟩ := id htitle
  refine ⟨htitle, ?_, ?_, ?_, ?_⟩
  · rw [hfields, keys_freezeEntries, keys_insert hget]
  · rw [hfields, get?_freezeEntries, get?_insert, if_pos rfl]
    rfl
  · intro key hkey
    rw [hfields, lookup?_freezeEntries, lookup?_insert_of_ne hkey]
  · rw [hfields, freezeEntries_freezeEntries]

theorem Contents.WrittenIn.keeps {c : Contents} {document : Entries} (h : c.WrittenIn document) :
    c.Keeps document := by
  obtain ⟨_, hcatalogues, block, hblock, _, hdoctypes⟩ := h
  have hkeeps : ∀ (e : Entry) raw, e.WrittenIn raw → e.Keeps raw := fun _ _ => Entry.WrittenIn.keeps
  exact ⟨hcatalogues.imp hkeeps, block, hblock, hdoctypes.imp hkeeps⟩

/-! ## Titles checked alone -/

namespace Schema

/-- The title of something that has a title. -/
def titleOf (v : Value) : Checked String := do
  let es ← mapping "_TitledEntry" v
  (field es "title" numericText).andFaults (foreignKeys es)

/-- The titles of a list of titled things, where one mapping or nothing may stand for a list. -/
def titleList (v : Value) : Checked (List String) :=
  listOf titleOf v.asList

/-- The titles of the document types of a document; an absent block has none. -/
def titleBlock : Value → Checked (List String)
  | .null => .ok []
  | v => do
    let es ← mapping "_DoctypesBlock" v
    (optional es "type" [] titleList).andFaults (foreignKeys es)

end Schema

/-- The titles of a document, and nothing else of it. -/
structure Titles where
  catalogues : List String
  doctypes : List String
deriving DecidableEq, Repr

/-- Checks the outline of a document, and keeps the titles only. -/
def Titles.check (document : Entries) : Checked Titles := do
  let (catalogues, doctypes) ←
    ((optional document "catalogue" [] titleList).both
      (optional document "doctypes" [] titleBlock)).andFaults (foreignKeys document)
  return ⟨catalogues, doctypes⟩

/-- The titles of the entries of a definition. -/
def Contents.titles (c : Contents) : Titles :=
  ⟨c.catalogues.map (·.title), c.doctypes.map (·.title)⟩

namespace Schema

section Maps

variable {α β γ δ : Type} {f : α → β} {g : γ → δ}

theorem Checked.under_map (s : Step) (c : Checked α) :
    Checked.under s (c.map f) = (Checked.under s c).map f := by
  cases c <;> rfl

theorem Checked.andFaults_map (c : Checked α) (extra : List Fault) :
    Checked.andFaults (c.map f) extra = (c.andFaults extra).map f := by
  cases c with
  | error fs => rfl
  | ok a => cases extra <;> rfl

theorem Checked.both_map (c : Checked α) (d : Checked γ) :
    Checked.both (c.map f) (d.map g) = (c.both d).map (Prod.map f g) := by
  cases c <;> cases d <;> rfl

theorem items_map (check : Value → Checked α) (n : Nat) (vs : List Value) :
    items (fun v => (check v).map f) n vs = (items check n vs).map (List.map f) := by
  induction vs generalizing n with
  | nil => rfl
  | cons v rest ih =>
    rw [items, items, ih, Checked.under_map, Checked.both_map]
    cases (Checked.under (.index n) (check v)).both (items check (n + 1) rest) <;> rfl

theorem optional_map (entries : Entries) (name : String) (default : α) (check : Value → Checked α) :
    optional entries name (f default) (fun v => (check v).map f) =
      (optional entries name default check).map f := by
  unfold optional
  cases Value.get? entries name with
  | none => rfl
  | some v => exact Checked.under_map (.field name) (check v)

end Maps

theorem titleOf_eq : titleOf = fun v => (titled v).map (·.title) := by
  funext v
  unfold titleOf titled
  cases mapping "_TitledEntry" v with
  | error fs => rfl
  | ok es =>
    simp only [bind, Except.bind]
    cases (field es "title" numericText).andFaults (foreignKeys es) <;> rfl

theorem titleList_eq : titleList = fun v => (titledList v).map (List.map (·.title)) := by
  funext v
  unfold titleList titledList listOf
  rw [titleOf_eq]
  cases v.asList with
  | list vs | tuple vs | set vs => exact items_map titled 0 vs
  | _ => rfl

theorem titleBlock_eq : titleBlock = fun v => (doctypesBlock v).map (List.map (·.title)) := by
  funext v
  cases v with
  | map es =>
    show (optional es "type" [] titleList).andFaults (foreignKeys es) =
      ((optional es "type" [] titledList).andFaults (foreignKeys es)).map _
    rw [titleList_eq, ← Checked.andFaults_map]
    exact congrArg (Checked.andFaults · _) (optional_map es "type" [] titledList)
  | _ => rfl

end Schema

/-- **Checked alone, the titles are those of the contents**, and the faults are the same. -/
theorem Titles.check_eq (document : Entries) :
    Titles.check document = (Contents.check document).map Contents.titles := by
  have hcatalogues : optional document "catalogue" [] titleList =
      (optional document "catalogue" [] titledList).map (List.map (·.title)) := by
    rw [titleList_eq]
    exact optional_map document "catalogue" [] titledList
  have hdoctypes : optional document "doctypes" [] titleBlock =
      (optional document "doctypes" [] doctypesBlock).map (List.map (·.title)) := by
    rw [titleBlock_eq]
    exact optional_map document "doctypes" [] doctypesBlock
  unfold Titles.check Contents.check
  rw [hcatalogues, hdoctypes, Checked.both_map, Checked.andFaults_map]
  cases ((optional document "catalogue" [] titledList).both
    (optional document "doctypes" [] doctypesBlock)).andFaults (foreignKeys document) <;> rfl

/-! ## Titles paired with entries -/

namespace Value

/-- Whether a value counts as nothing where a condition is expected. -/
def isEmpty : Value → Bool
  | .null => true
  | .bool b => !b
  | .int i => i == 0
  | .float x => x.toInt? == some 0
  | .text s => s.isEmpty
  | .bytes bs => bs.isEmpty
  | .list vs | .tuple vs | .set vs => vs.isEmpty
  | .map entries => entries.isEmpty
  | .date _ | .moment _ => false

/-- The value, or an empty mapping when it counts as nothing. -/
def orMapping (v : Value) : Value :=
  if v.isEmpty then .map [] else v

/-- The entries of a mapping; other values have none. -/
def entries? : Value → Option Entries
  | .map entries => some entries
  | _ => none

end Value

/-- Goes through the items of a value and a row of titles side by side, and ends with the shorter of
the two.  It cannot be done when there are no items to go through, or when one of them is no
mapping. -/
def withTitles (written : Value) (titles : List String) : Option (List Entry) := do
  let vs ← written.asList.itemsOf?
  (vs.zip titles).mapM fun (v, title) => v.entries?.map (Entry.ofRaw · title)

/-- Looks the entries of a document up once more, and pairs them with titles. -/
def Contents.pairUp (document : Entries) (titles : Titles) : Option Contents := do
  let catalogues ← withTitles ((get? document "catalogue").getD .null) titles.catalogues
  let block ← ((get? document "doctypes").getD .null).orMapping.entries?
  let doctypes ← withTitles ((get? block "type").getD .null) titles.doctypes
  return ⟨catalogues, doctypes⟩

/-- The contents of a definition in two steps: the titles, and the entries that belong to them. -/
def Contents.zipped (document : Entries) : Checked (Option Contents) :=
  (Titles.check document).map (Contents.pairUp document)

theorem withTitles_of_written {entries : Entries} {name : String} {es : List Entry}
    (h : RowOf Entry.WrittenIn entries name es) :
    withTitles ((get? entries name).getD .null) (es.map (·.title)) = some es := by
  obtain ⟨vs, hrow, hall⟩ := h
  have hzip : (vs.zip (es.map (·.title))).mapM
      (fun (v, title) => v.entries?.map (Entry.ofRaw · title)) = some es := by
    clear hrow
    induction hall with
    | nil => rfl
    | @cons v e vs es hv _ ih =>
      obtain ⟨raw, rfl, he⟩ := hv
      rw [List.map_cons, List.zip_cons_cons, List.mapM_cons, ih]
      exact congrArg (fun e => some (e :: es)) he.kept.symm
  unfold withTitles
  rw [itemsOf?_of_rowAt? hrow]
  exact hzip

/-- A block that is accepted is what is looked up in its place. -/
theorem entries?_of_blockAt? {entries : Entries} {name : String} {block : Entries}
    (h : blockAt? entries name = some block) :
    ((get? entries name).getD .null).orMapping.entries? = some block := by
  unfold blockAt? at h
  split at h
  · rename_i hget
    rw [hget]
    exact h
  · rename_i hget
    rw [hget]
    exact h
  · rename_i fields hget
    rw [hget]
    cases h
    cases block <;> rfl
  · cases h

theorem Contents.pairUp_of_written {document : Entries} {c : Contents}
    (h : c.WrittenIn document) : Contents.pairUp document c.titles = some c := by
  obtain ⟨_, hcatalogues, block, hblock, _, hdoctypes⟩ := h
  simp only [Contents.pairUp, titles, withTitles_of_written hcatalogues, entries?_of_blockAt? hblock,
    bind, Option.bind, withTitles_of_written hdoctypes]
  rfl

/-- **In two steps, the contents are the same**: the second step can always be done, and no entry is
lost because there are fewer titles. -/
theorem Contents.zipped_eq (document : Entries) :
    Contents.zipped document = (Contents.check document).map some := by
  unfold Contents.zipped
  rw [Titles.check_eq]
  cases h : Contents.check document with
  | error fs => rfl
  | ok c => exact congrArg Except.ok (Contents.pairUp_of_written (Contents.check_eq_ok_iff.1 h))

/-! ## Loading -/

/-- **A document is loaded with all of its entries, or is a parsing error that names its source, or is
given up.**  It is loaded exactly when it has an outline.  Then every entry under the catalogues and
under the document types is kept, in its place and frozen, and nothing of it is changed but that the
title is a text.  It is given up, and no parsing error, exactly when a title in it is an integer that
cannot be written.  Whether the titles are checked alone and paired with the entries afterwards makes
no difference. -/
theorem loading_keeps_entries (document : Entries) (source : String) :
    (Outlined document ∧ ∃ c, Contents.ofDocument document source = .ok c ∧ c.Keeps document ∧
        Contents.zipped document = .ok (some c)) ∨
      (¬ Outlined document ∧ ¬ Contents.Unwritable document ∧
        ∃ e fs, Contents.ofDocument document source = .error (.error e) ∧
          e.kind = .parse ∧ e.context.sourcePath = .text source ∧
          e.cause = some (.schema ⟨"_DocumentSpec", fs⟩) ∧
          Contents.zipped document = .error (.faults fs)) ∨
      (¬ Outlined document ∧ Contents.Unwritable document ∧
        Contents.ofDocument document source = .error .unwritable ∧
        Contents.zipped document = .error .unwritable) := by
  rw [Contents.zipped_eq, ← Outlined.exists_writtenIn_iff, ← Contents.check_eq_unwritable_iff]
  simp only [← Contents.check_eq_ok_iff]
  rcases Contents.ofDocument_cases document source with
    ⟨c, hc⟩ | ⟨e, fs, hcheck, he⟩ | ⟨hcheck, hgives⟩
  · have hwritten := Contents.ofDocument_eq_ok_iff.1 hc
    have hcheck := Contents.check_eq_ok_iff.2 hwritten
    exact Or.inl ⟨⟨c, hcheck⟩, c, hc, hwritten.keeps, by rw [hcheck]; rfl⟩
  · exact Or.inr (Or.inl ⟨by simp [hcheck], by simp [hcheck], e, fs, he.1, he.2.1, he.2.2.1,
      he.2.2.2, by rw [hcheck]; rfl⟩)
  · exact Or.inr (Or.inr ⟨by simp [hcheck], hcheck, hgives, by rw [hcheck]; rfl⟩)

/-- **It is not so that a document which is not loaded is always a parsing error**: the title of its
catalogue may have one digit too many. -/
theorem overlong_title_escapes :
    ¬ ∀ (document : Entries) (source : String) (f : Failure),
      Contents.ofDocument document source = .error f → f.kind = .parse := by
  intro h
  let title : Value := .int (powerOfTen 4300)
  have hlong : OverlongAt [(.text "title", title)] "title" :=
    ⟨title, rfl, _, rfl, by decide +kernel⟩
  have hgives := h [(.text "catalogue", .map [(.text "title", title)])] "opac.yaml" .unwritable
    (Contents.ofDocument_eq_unwritable_iff.2
      (Or.inl ⟨_, rfl, [(.text "title", title)], List.mem_singleton_self _, hlong⟩))
  cases hgives

/-- One mapping stands for a list, a number for a title, and null for a block. -/
example :
    (Contents.ofDocument [(.text "catalogue", .map [(.text "title", .int 7)]),
        (.text "doctypes", .null)] "opac.yaml").toOption.map Contents.titles =
      some ⟨["7"], []⟩ := by
  decide +kernel

end LibraryCatalogue
