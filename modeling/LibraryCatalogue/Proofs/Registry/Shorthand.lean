import LibraryCatalogue.Proofs.Definition.Frozen
import LibraryCatalogue.Proofs.Endpoint.Specials
import LibraryCatalogue.Proofs.Registry.Lookup
import LibraryCatalogue.Proofs.Schema.Shorthand

/-!
# Shorthands mean the same

An entry is looked at three times: when its outline is checked, when it is resolved, and when its
special mappings are read without the rest of it; raw the first time, and frozen and thawed after that.
Shorthands make no difference in any of them.

* `Entry.SameCatalogue`, `Entry.SameDoctype` — kept entries that answer alike;
* `titled_catalogues`, `titled_doctypes` — alike entries are kept as such entries, or are at fault
  alike;
* `Contents.ofDocument_alike` — so are the entries of alike documents;
* `Definition.SameAnswers`, `Contents.SameAnswers.definition` — definitions that answer every question
  alike;
* `shorthands_agree` — a document and the one in other shorthands fail alike, or are loaded as two such
  definitions.
-/

namespace LibraryCatalogue

open Schema Value Results

/-! ## Entries as they are kept -/

theorem Entry.rawTitle_ofRaw (raw : Entries) (title : String) :
    rawTitle (Entry.ofRaw raw title).fields = .text title :=
  Entry.titled_ofRaw raw title

/-! ## Special mappings -/

/-- The special mappings of an entry that was kept are those of the row that is written. -/
theorem specialMappingsOf_ofRaw {raw : Entries} {vs : List Value}
    (h : rowAt? raw "specialmapping" = some vs) (title : String) :
    specialMappingsOf (Entry.ofRaw raw title).fields = vs.mapM (SpecialMapping.ofItem (.text title)) := by
  have hget : get? (Entry.ofRaw raw title).fields "specialmapping" =
      (get? raw "specialmapping").map freeze := by
    unfold Entry.ofRaw
    rw [get?_freezeEntries, get?_insert, if_neg (by decide)]
  have hrow : rowAt? (Entry.ofRaw raw title).fields "specialmapping" = some vs ∨
      rowAt? (Entry.ofRaw raw title).fields "specialmapping" = some (vs.map freeze) := by
    unfold rowAt? at h ⊢
    rw [hget]
    cases hraw : get? raw "specialmapping" with
    | none =>
      rw [hraw] at h
      exact Or.inl h
    | some v =>
      rw [hraw] at h
      exact Repacked.row? repacking_freeze h
  rw [← Entry.rawTitle_ofRaw raw title]
  rcases hrow with hsame | hfrozen
  · exact specialMappingsOf_of_row hsame
  · rw [specialMappingsOf_of_row hfrozen]
    exact mapM_ofItem repacking_freeze _ vs

/-! ## Entries that answer alike -/

/-- Two kept catalogues have the same title, and are resolved and read for special mappings alike. -/
structure Entry.SameCatalogue (e e' : Entry) : Prop where
  title : e.title = e'.title
  endpoint : Endpoint.ofEntry e.fields = Endpoint.ofEntry e'.fields
  specials : specialMappingsOf e.fields = specialMappingsOf e'.fields

/-- Two kept document types have the same title, and are resolved alike. -/
structure Entry.SameDoctype (e e' : Entry) : Prop where
  title : e.title = e'.title
  doctype : DocumentType.ofEntry e.fields = DocumentType.ofEntry e'.fields

theorem Schema.foreignKeys_insert (entries : Entries) (name : String) (v : Value) :
    foreignKeys (insert (.text name) v entries) = foreignKeys entries := by
  induction entries with
  | nil => rfl
  | cons e rest ih =>
    obtain ⟨k, w⟩ := e
    simp only [Value.insert]
    split
    · rfl
    · simp only [foreignKeys, List.filterMap_cons] at ih ⊢
      rw [ih]

/-- What is under another name than the title stays alike when the title is written. -/
theorem Schema.SameBut.insert {names : List String} {x y : Entries} (h : SameBut names x y)
    (title : String) :
    SameBut names (Value.insert (.text "title") (.text title) x)
      (Value.insert (.text "title") (.text title) y) where
  fields name hname := by rw [get?_insert, get?_insert, h.fields name hname]
  foreign := by rw [foreignKeys_insert, foreignKeys_insert, h.foreign]

theorem Schema.RowsAlike.insert {R : Entries → Entries → Prop} {x y : Entries} {name : String}
    (h : RowsAlike R x y name) (hname : "title" ≠ name) (title : String) :
    RowsAlike R (Value.insert (.text "title") (.text title) x)
      (Value.insert (.text "title") (.text title) y) name := by
  unfold RowsAlike rowAt? at h ⊢
  rw [get?_insert, get?_insert, if_neg hname, if_neg hname]
  exact h

theorem Schema.BlockAlike.insert {R : Entries → Entries → Prop} {x y : Entries} {name : String}
    (h : BlockAlike R x y name) (hname : "title" ≠ name) (title : String) :
    BlockAlike R (Value.insert (.text "title") (.text title) x)
      (Value.insert (.text "title") (.text title) y) name := by
  unfold BlockAlike blockAt? at h ⊢
  rw [get?_insert, get?_insert, if_neg hname, if_neg hname]
  exact h

theorem Schema.CatalogueAlike.insert {x y : Entries} (h : CatalogueAlike x y) (title : String) :
    CatalogueAlike (Value.insert (.text "title") (.text title) x)
      (Value.insert (.text "title") (.text title) y) :=
  ⟨h.others.insert title, h.rules.insert (by decide) title,
    h.specialMappings.insert (by decide) title⟩

theorem Schema.DoctypeAlike.insert {x y : Entries} (h : DoctypeAlike x y) (title : String) :
    DoctypeAlike (Value.insert (.text "title") (.text title) x)
      (Value.insert (.text "title") (.text title) y) := by
  refine ⟨h.others.insert title, ?_⟩
  have hcodes := h.codes
  unfold CodesAlike codesAt? at hcodes ⊢
  rw [get?_insert, get?_insert, if_neg (by decide), if_neg (by decide)]
  exact hcodes

/-- The special mappings of two entries that were kept are the same when the rows written in them
are. -/
theorem specialMappingsOf_alike {x y : Entries} (h : RowsAlike Eq x y "specialmapping")
    (title : String) :
    specialMappingsOf (Entry.ofRaw x title).fields =
      specialMappingsOf (Entry.ofRaw y title).fields := by
  rcases h with hsame | ⟨vs, ws, hvs, hws, hrows⟩
  · have hget : get? (Entry.ofRaw x title).fields "specialmapping" =
        get? (Entry.ofRaw y title).fields "specialmapping" := by
      unfold Entry.ofRaw
      rw [get?_freezeEntries, get?_freezeEntries, get?_insert, get?_insert, if_neg (by decide),
        if_neg (by decide), hsame]
    unfold specialMappingsOf
    rw [hget, Entry.rawTitle_ofRaw, Entry.rawTitle_ofRaw]
  · obtain rfl : vs = ws := by
      rw [← List.forall₂_eq_eq_eq]
      refine hrows.imp fun v w hvw => ?_
      rcases hvw with rfl | ⟨a, b, rfl, rfl, rfl⟩ <;> rfl
    rw [specialMappingsOf_ofRaw hvs, specialMappingsOf_ofRaw hws]

/-- Alike catalogues are kept as entries that answer alike. -/
theorem Schema.CatalogueAlike.sameCatalogue {x y : Entries} (h : CatalogueAlike x y)
    (title : String) : (Entry.ofRaw x title).SameCatalogue (Entry.ofRaw y title) where
  title := rfl
  endpoint := by
    simp only [Endpoint.ofEntry, Entry.rawTitle_ofRaw,
      Entry.check_ofRaw (CatalogueEntry.blind_check repacking_freeze)
        (CatalogueEntry.blind_check repacking_thaw), (h.insert title).check_eq]
  specials := specialMappingsOf_alike h.specialMappings title

/-- Alike document types are kept as entries that answer alike. -/
theorem Schema.DoctypeAlike.sameDoctype {x y : Entries} (h : DoctypeAlike x y) (title : String) :
    (Entry.ofRaw x title).SameDoctype (Entry.ofRaw y title) where
  title := rfl
  doctype := by
    simp only [DocumentType.ofEntry, Entry.rawTitle_ofRaw,
      Entry.check_ofRaw (DoctypeEntry.blind_check repacking_freeze)
        (DoctypeEntry.blind_check repacking_thaw), (h.insert title).check_eq]

/-! ## Documents -/

namespace Schema

/-- The outlines of two entries are at fault alike, or both are kept under one title. -/
theorem titled_alike {R : Entry → Entry → Prop} {names : List String} {x y : Entries}
    (h : SameBut names x y) (hnames : "title" ∉ names)
    (hR : ∀ title, R (Entry.ofRaw x title) (Entry.ofRaw y title)) :
    Checked.Alike R (titled (.map x)) (titled (.map y)) := by
  have htitle : Checked.Alike Eq
      ((field x "title" numericText).andFaults (foreignKeys x))
      ((field y "title" numericText).andFaults (foreignKeys y)) := by
    rw [field_congr (h.fields "title" hnames), h.foreign]
    exact .refl (fun _ => rfl) _
  refine htitle.bind ?_
  rintro title _ rfl
  exact .ok (hR title)

/-- Alike lists of catalogues are at fault alike, or are kept as catalogues that answer alike. -/
theorem titled_catalogues {x y : Entries} {name : String} (h : RowsAlike CatalogueAlike x y name) :
    Checked.Alike (List.Forall₂ Entry.SameCatalogue) (optional x name [] titledList)
      (optional y name [] titledList) :=
  h.alike titled (fun _ => ⟨rfl, rfl, rfl⟩) fun _ _ hab =>
    titled_alike hab.others (by decide) hab.sameCatalogue

/-- Alike blocks of document types are at fault alike, or are kept as document types that answer
alike. -/
theorem titled_doctypes {x y : Entries} {name : String}
    (h : BlockAlike (AlikeIn "type" DoctypeAlike) x y name) :
    Checked.Alike (List.Forall₂ Entry.SameDoctype) (optional x name [] doctypesBlock)
      (optional y name [] doctypesBlock) := by
  have hrefl (e : Entry) : e.SameDoctype e := ⟨rfl, rfl⟩
  refine h.alike (fun es => List.forall₂_same.2 fun e _ => hrefl e)
    (optional_doctypesBlock · name) fun b c hbc => ?_
  rw [hbc.others.foreign]
  refine Checked.Alike.andFaults (hbc.rows.alike titled hrefl ?_) _
  exact fun _ _ hab => titled_alike hab.others (by decide) hab.sameDoctype

end Schema

/-- Two contents have entries that answer alike, one by one. -/
structure Contents.SameAnswers (c d : Contents) : Prop where
  catalogues : List.Forall₂ Entry.SameCatalogue c.catalogues d.catalogues
  doctypes : List.Forall₂ Entry.SameDoctype c.doctypes d.doctypes

/-- **Alike documents fail with the same error, or have contents that answer alike.** -/
theorem Contents.ofDocument_alike {x y : Entries} (h : DocumentAlike x y) (source : String) :
    (∃ e, ofDocument x source = .error e ∧ ofDocument y source = .error e) ∨
      ∃ c d, ofDocument x source = .ok c ∧ ofDocument y source = .ok d ∧ c.SameAnswers d := by
  have hboth := (titled_catalogues h.catalogues).both (titled_doctypes h.doctypes)
  have hcheck : Checked.Alike SameAnswers (check x) (check y) := by
    unfold check
    rw [h.others.foreign]
    exact (hboth.andFaults _).bind fun _ _ hp => .ok ⟨hp.1, hp.2⟩
  unfold ofDocument
  generalize check x = cx at hcheck
  generalize check y = cy at hcheck
  cases hcheck with
  | ok hc => exact Or.inr ⟨_, _, rfl, rfl, hc⟩
  | error fs => exact Or.inl ⟨_, rfl, rfl⟩

/-! ## Questions -/

/-- Two definitions list the same titles and give the same answer, or the same error, to every
question. -/
structure Definition.SameAnswers (d d' : Definition) : Prop where
  catalogueTitles : d.catalogueTitles = d'.catalogueTitles
  doctypeTitles : d.doctypeTitles = d'.doctypeTitles
  endpoint : ∀ name, d.askEndpoint name = d'.askEndpoint name
  doctype : ∀ title, d.doctype? title = d'.doctype? title
  meaning : ∀ code catalogue, d.askMeaning code catalogue = d'.askMeaning code catalogue

section Rows

variable {R : Entry → Entry → Prop} {xs ys : List Entry}

theorem titles_of_forall₂ (hR : ∀ e e', R e e' → e.title = e'.title) (h : List.Forall₂ R xs ys) :
    xs.map (·.title) = ys.map (·.title) := by
  induction h with
  | nil => rfl
  | cons he _ ih => rw [List.map_cons, List.map_cons, hR _ _ he, ih]

/-- What the first entry with a title is good for is the same in two related rows. -/
theorem map_find?_of_forall₂ {β : Type} {f : Entry → β} (hR : ∀ e e', R e e' → e.title = e'.title)
    (hf : ∀ e e', R e e' → f e = f e') (h : List.Forall₂ R xs ys) (title : String) :
    (xs.find? (·.title == title)).map f = (ys.find? (·.title == title)).map f := by
  induction h with
  | nil => rfl
  | @cons e e' _ _ he _ ih =>
    by_cases ht : e.title = title
    · have ht' : e'.title = title := hR e e' he ▸ ht
      rw [List.find?_cons_of_pos (by simp [ht]), List.find?_cons_of_pos (by simp [ht'])]
      exact congrArg some (hf e e' he)
    · have ht' : e'.title ≠ title := hR e e' he ▸ ht
      rw [List.find?_cons_of_neg (by simp [ht]), List.find?_cons_of_neg (by simp [ht'])]
      exact ih

end Rows

namespace Definition

theorem endpoint?_eq_elim (d : Definition) (name : String) :
    d.endpoint? name = ((d.findCatalogue? name).map fun e => Endpoint.ofEntry e.fields).elim
      (.ok none) (·.map some) := by
  unfold endpoint?
  cases d.findCatalogue? name <;> rfl

theorem specialMappings_eq_elim (d : Definition) (catalogue : String) :
    d.specialMappings catalogue =
      ((d.findCatalogue? catalogue).map fun e => specialMappingsOf e.fields).elim (.ok []) id := by
  unfold specialMappings
  cases d.findCatalogue? catalogue <;> rfl

theorem doctype?_eq_elim (d : Definition) (title : String) :
    d.doctype? title = ((d.findDoctype? title).map fun e => DocumentType.ofEntry e.fields).elim
      (.ok none) (·.map some) := by
  unfold doctype?
  cases d.findDoctype? title <;> rfl

end Definition

/-- **Definitions with contents that answer alike answer alike.** -/
theorem Contents.SameAnswers.definition {c d : Contents} (h : c.SameAnswers d) (source : String)
    (version : Nat) (marker : Option Marker) :
    Definition.SameAnswers ⟨source, version, marker, c⟩ ⟨source, version, marker, d⟩ := by
  have hcatalogues := titles_of_forall₂ (fun _ _ => Entry.SameCatalogue.title) h.catalogues
  have hdoctypes := titles_of_forall₂ (fun _ _ => Entry.SameDoctype.title) h.doctypes
  have hendpoint (name : String) : Definition.endpoint? ⟨source, version, marker, c⟩ name =
      Definition.endpoint? ⟨source, version, marker, d⟩ name := by
    rw [Definition.endpoint?_eq_elim, Definition.endpoint?_eq_elim]
    exact congrArg (Option.elim · _ _) (map_find?_of_forall₂
      (fun _ _ => Entry.SameCatalogue.title) (fun _ _ => Entry.SameCatalogue.endpoint)
      h.catalogues name)
  have hspecials (name : String) : Definition.specialMappings ⟨source, version, marker, c⟩ name =
      Definition.specialMappings ⟨source, version, marker, d⟩ name := by
    rw [Definition.specialMappings_eq_elim, Definition.specialMappings_eq_elim]
    exact congrArg (Option.elim · _ _) (map_find?_of_forall₂
      (fun _ _ => Entry.SameCatalogue.title) (fun _ _ => Entry.SameCatalogue.specials)
      h.catalogues name)
  have hdoctype (title : String) : Definition.doctype? ⟨source, version, marker, c⟩ title =
      Definition.doctype? ⟨source, version, marker, d⟩ title := by
    rw [Definition.doctype?_eq_elim, Definition.doctype?_eq_elim]
    exact congrArg (Option.elim · _ _) (map_find?_of_forall₂
      (fun _ _ => Entry.SameDoctype.title) (fun _ _ => Entry.SameDoctype.doctype) h.doctypes title)
  have hrequire := Definition.requireDoctype_congr (x := ⟨source, version, marker, c⟩)
    (y := ⟨source, version, marker, d⟩) rfl hdoctype
  refine ⟨hcatalogues, hdoctypes, fun name => ?_, hdoctype, fun code catalogue => ?_⟩
  · unfold Definition.askEndpoint
    rw [hendpoint]
    rfl
  · unfold Definition.askMeaning
    rw [Definition.resolve_congr hrequire hspecials]
    intro code
    show Definition.firstWithCode _ code (c.doctypes.map (·.title)) =
      Definition.firstWithCode _ code (d.doctypes.map (·.title))
    rw [hdoctypes, Definition.firstWithCode_congr hrequire]

/-- **Shorthands mean the same.**  A document and one that differs from it in shorthands only, in
whichever and however many places, are either both no definition, with the same error, or both
definitions that list the same titles and answer every question alike: for the endpoint of a
catalogue, for a document type and for the meaning of a code, errors and events on the log
included. -/
theorem shorthands_agree {x y : Entries} (h : DocumentAlike x y) (source : String) :
    (∃ e, Contents.ofDocument x source = .error e ∧ Contents.ofDocument y source = .error e) ∨
      ∃ c d, Contents.ofDocument x source = .ok c ∧ Contents.ofDocument y source = .ok d ∧
        ∀ version marker,
          Definition.SameAnswers ⟨source, version, marker, c⟩ ⟨source, version, marker, d⟩ := by
  rcases Contents.ofDocument_alike h source with herror | ⟨c, d, hc, hd, hanswers⟩
  · exact Or.inl herror
  · exact Or.inr ⟨c, d, hc, hd, hanswers.definition source⟩

/-! ## A document in two shorthands -/

/-- A rule with some conditions. -/
def ruleUnder (conditions : Value) : Entries :=
  [(.text "tag", .text "036E"), (.text "value", .text "A␣B"), (.text "condition", conditions)]

/-- A catalogue with some rules, and what else is written in it. -/
def catalogueOf (rules : Value) (more : Entries) : Entries :=
  (.text "title", .text "GBV") ::
    (.text "config", .map [(.text "address", .text "sru.gbv.de"), (.text "database", .text "2.1"),
      (.text "port", .int 80)]) ::
    (.text "beautify", .map [(.text "setvalue", rules)]) :: more

/-- A document type with some codes. -/
def monograph (codes : Value) : Entries :=
  [(.text "title", .text "Monograph"), (.text "mapping", codes)]

/-- A document with some catalogues and document types. -/
def documentOf (catalogues doctypes : Value) : Entries :=
  [(.text "catalogue", catalogues), (.text "doctypes", .map [(.text "type", doctypes)])]

/-- A condition. -/
def material : Entries :=
  [(.text "tag", .text "002@"), (.text "value", .text "Aa.*")]

/-- A document with lists in all places. -/
def inLists : Entries :=
  documentOf
    (.list [.map (catalogueOf (.list [.map (ruleUnder (.list [.map material]))])
      [(.text "specialmapping", .list [])])])
    (.list [.map (monograph (.list [.text "Aa"]))])

/-- The document with shorthands in all places. -/
def inShorthand : Entries :=
  documentOf (.map (catalogueOf (.map (ruleUnder (.map material))) []))
    (.map (monograph (.text "Aa")))

theorem inLists_alike_inShorthand : DocumentAlike inLists inShorthand := by
  have hrule : RuleAlike (ruleUnder (.list [.map material])) (ruleUnder (.map material)) :=
    ⟨.cons _ (.cons _ (.changed (by decide) _ _ (.refl _ _))), .single rfl rfl (Or.inl rfl)⟩
  have hcatalogue : CatalogueAlike
      (catalogueOf (.list [.map (ruleUnder (.list [.map material]))])
        [(.text "specialmapping", .list [])])
      (catalogueOf (.map (ruleUnder (.map material))) []) := by
    refine ⟨.cons _ (.cons _ (.changed (by decide) _ _ (.leftOut (by decide) _ (.refl _ _)))),
      Or.inr ⟨_, _, rfl, rfl, ?_⟩, .nothing rfl (Or.inl rfl)⟩
    exact ⟨.changed (by decide) _ _ (.refl _ _), .single rfl rfl (Or.inr hrule)⟩
  have hdoctype : DoctypeAlike (monograph (.list [.text "Aa"])) (monograph (.text "Aa")) :=
    ⟨.cons _ (.changed (by decide) _ _ (.refl _ _)), .single rfl rfl⟩
  refine ⟨.changed (by decide) _ _ (.changed (by decide) _ _ (.refl _ _)),
    .single rfl rfl (Or.inr hcatalogue), Or.inr ⟨_, _, rfl, rfl, ?_⟩⟩
  exact ⟨.changed (by decide) _ _ (.refl _ _), .single rfl rfl (Or.inr hdoctype)⟩

theorem shorthands_agree_inShorthand :
    DocumentAlike inLists inShorthand ∧
      ∃ c d, Contents.ofDocument inLists "opac.yaml" = .ok c ∧
        Contents.ofDocument inShorthand "opac.yaml" = .ok d ∧
        Definition.SameAnswers ⟨"opac.yaml", 1, none, c⟩ ⟨"opac.yaml", 1, none, d⟩ := by
  refine ⟨inLists_alike_inShorthand, ?_⟩
  have hloads : (Contents.ofDocument inLists "opac.yaml").toOption.isSome = true := by
    decide +kernel
  rcases shorthands_agree inLists_alike_inShorthand "opac.yaml" with
    ⟨e, he, _⟩ | ⟨c, d, hc, hd, hsame⟩
  · rw [he] at hloads
    cases hloads
  · exact ⟨c, d, hc, hd, hsame 1 none⟩

end LibraryCatalogue
