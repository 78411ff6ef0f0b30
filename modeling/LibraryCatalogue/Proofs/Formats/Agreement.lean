import LibraryCatalogue.Proofs.Formats.Contents
import LibraryCatalogue.Proofs.Formats.Elements
import LibraryCatalogue.Proofs.Registry.Lookup

/-!
# The two forms of a definition mean the same

* `Plan.definition` — what is loaded from a plan in a style;
* `Plan.endpoint?_definition`, `Plan.doctype?_definition`, `Plan.specialMappings_definition` — the
  lookups in it, in two styles;
* `Plan.forms_agree` — a plan as a tree of elements and as a document: both are definitions, with the
  same titles, and every question to them has the same answer or the same error.
-/

namespace LibraryCatalogue

open Schema Source Value

namespace Plan

/-- What is loaded from a plan in a style. -/
def definition (w : Style) (p : Plan) (source : String) (version : Nat) (marker : Option Marker) :
    Definition :=
  ⟨source, version, marker, p.contents w⟩

variable {w w' : Style} {p : Plan} {source : String} {version : Nat} {marker : Option Marker}

theorem catalogueTitles_definition :
    (p.definition w source version marker).catalogueTitles = p.catalogues.map (·.title) := by
  simp [definition, Definition.catalogueTitles, contents, CataloguePlan.entry, Function.comp_def]

theorem doctypeTitles_definition :
    (p.definition w source version marker).doctypeTitles = p.doctypes.map (·.title) := by
  simp [definition, Definition.doctypeTitles, contents, DoctypeEntry.entry, Function.comp_def]

theorem findCatalogue?_definition (name : String) :
    (p.definition w source version marker).findCatalogue? name =
      (p.catalogues.find? (·.title == name)).map (CataloguePlan.entry w) := by
  unfold Definition.findCatalogue? definition contents
  rw [List.find?_map]
  rfl

theorem findDoctype?_definition (title : String) :
    (p.definition w source version marker).findDoctype? title =
      (p.doctypes.find? (·.title == title)).map (DoctypeEntry.entry w) := by
  unfold Definition.findDoctype? definition contents
  rw [List.find?_map]
  rfl

/-- What a title stands for among the catalogues of a loaded plan. -/
theorem endpoint?_definition (name : String) :
    (p.definition w source version marker).endpoint? name =
      match p.catalogues.find? (·.title == name) with
      | none => .ok none
      | some c => (Endpoint.ofEntry (c.entry w).fields).map some := by
  unfold Definition.endpoint?
  rw [findCatalogue?_definition]
  cases p.catalogues.find? (·.title == name) <;> rfl

/-- What a title stands for among the document types of a loaded plan. -/
theorem doctype?_definition (hw : w.spelling.Faithful) (title : String) :
    (p.definition w source version marker).doctype? title =
      .ok ((p.doctypes.find? (·.title == title)).map DoctypeEntry.resolve) := by
  unfold Definition.doctype?
  rw [findDoctype?_definition]
  cases p.doctypes.find? (·.title == title) with
  | none => rfl
  | some d =>
    simp only [Option.map_some, d.ofEntry_entry hw]
    rfl

theorem specialMappings_definition (catalogue : String) :
    (p.definition w source version marker).specialMappings catalogue =
      (p.definition w' source version marker).specialMappings catalogue := by
  unfold Definition.specialMappings
  rw [findCatalogue?_definition, findCatalogue?_definition]
  cases p.catalogues.find? (·.title == catalogue) with
  | none => rfl
  | some c => exact c.specialMappingsOf_entry w w'

/-- **Endpoints of a plan that was loaded in two faithful styles are the same.** -/
theorem endpoint?_eq (h : p.Renderable) (hw : w.spelling.Faithful) (hw' : w'.spelling.Faithful)
    (name : String) :
    (p.definition w source version marker).endpoint? name =
      (p.definition w' source version marker).endpoint? name := by
  rw [endpoint?_definition, endpoint?_definition]
  cases hc : p.catalogues.find? (·.title == name) with
  | none => rfl
  | some c =>
    have hr := h.catalogues c (List.mem_of_find?_eq_some hc)
    simp only [CataloguePlan.ofEntry_entry hw hw' hr]

theorem doctype?_eq (hw : w.spelling.Faithful) (hw' : w'.spelling.Faithful) (title : String) :
    (p.definition w source version marker).doctype? title =
      (p.definition w' source version marker).doctype? title := by
  rw [doctype?_definition hw, doctype?_definition hw']

/-- **Codes mean the same in a plan that was loaded in two faithful styles.** -/
theorem resolve_eq (hw : w.spelling.Faithful) (hw' : w'.spelling.Faithful)
    (code catalogue : String) :
    (p.definition w source version marker).resolve code catalogue =
      (p.definition w' source version marker).resolve code catalogue := by
  have hrequire : (p.definition w source version marker).requireDoctype =
      (p.definition w' source version marker).requireDoctype :=
    Definition.requireDoctype_congr rfl (doctype?_eq hw hw')
  refine Definition.resolve_congr hrequire specialMappings_definition ?_ code catalogue
  intro code
  rw [doctypeTitles_definition, doctypeTitles_definition, Definition.firstWithCode_congr hrequire]

/-- **The two forms of a definition mean the same.**  A plan that can be written as a tree of elements
is a definition both as that tree and as a document.  Both list the titles of the plan, and give the
same answer or the same error to every question: for the endpoint of a catalogue, for a document type
and for the meaning of a code.  Document types are always those of the plan, and so is the endpoint
of a catalogue whose rules and special mappings have their tags and titles. -/
theorem forms_agree (p : Plan) (h : p.Renderable) (bareTree bareLists bareBlocks : Bool)
    (source : String) (version : Nat) (marker : Option Marker) :
    ∃ node x y, elementValue (p.element bareTree) = .ok (.map node) ∧
      Contents.ofDocument node source = .ok x ∧
      Contents.ofDocument (p.document ⟨.native, bareLists, bareBlocks⟩) source = .ok y ∧
      let tree : Definition := ⟨source, version, marker, x⟩
      let document : Definition := ⟨source, version, marker, y⟩
      (tree.catalogueTitles = p.catalogues.map (·.title) ∧
        document.catalogueTitles = p.catalogues.map (·.title)) ∧
      (tree.doctypeTitles = p.doctypes.map (·.title) ∧
        document.doctypeTitles = p.doctypes.map (·.title)) ∧
      (∀ name, tree.endpoint? name = document.endpoint? name) ∧
      (∀ title, tree.doctype? title = document.doctype? title) ∧
      (∀ code catalogue, tree.resolve code catalogue = document.resolve code catalogue) ∧
      (∀ title, document.doctype? title =
        .ok ((p.doctypes.find? (·.title == title)).map DoctypeEntry.resolve)) ∧
      (∀ name c, p.catalogues.find? (·.title == name) = some c → c.Tagged →
        document.endpoint? name =
          ((CatalogueEntry.resolve ⟨c.title, c.connection, c.rules, c.specialMappings⟩).mapError
            (·.aboutCatalogue (.text c.title))).map some) := by
  have ht : (Style.ofElements bareTree).spelling.Faithful := Spelling.worded_faithful
  have hd : (Style.mk .native bareLists bareBlocks).spelling.Faithful := Spelling.native_faithful
  refine ⟨_, _, _, p.elementValue_element bareTree h, p.ofDocument_document _ source,
    p.ofDocument_document _ source, ⟨catalogueTitles_definition, catalogueTitles_definition⟩,
    ⟨doctypeTitles_definition, doctypeTitles_definition⟩, endpoint?_eq h ht hd, doctype?_eq ht hd,
    resolve_eq ht hd, doctype?_definition hd, ?_⟩
  intro name c hc htag
  have hr := h.catalogues c (List.mem_of_find?_eq_some hc)
  show (p.definition _ source version marker).endpoint? name = _
  rw [endpoint?_definition, hc]
  simp only [CataloguePlan.ofEntry_tagged hd hr htag]

/-- A catalogue with a rule under a condition and a special mapping, and one document type. -/
def sample : Plan where
  catalogues := [{
    title := "GBV"
    description := ""
    address := "sru.gbv.de"
    database := "2.1"
    port := 80
    userClause := some "XPNOFF=1"
    charset := none
    rules := [⟨"036E", some "a", "Series␣Title", none, [⟨"002@", some "0", "Aa.*", none⟩]⟩]
    specialMappings := [⟨"periodical", "Ab"⟩] }]
  doctypes := [⟨"periodical", true, false, false, ["Ab", "Ob"]⟩]

theorem sample_renderable : sample.Renderable where
  catalogues := by
    rintro c (_ | ⟨_, ⟨⟩⟩)
    refine ⟨by decide, by decide, ?_⟩
    rintro s (_ | ⟨_, ⟨⟩⟩)
    exact ⟨by decide, rfl⟩
  codes := by
    rintro d (_ | ⟨_, ⟨⟩⟩) code hc
    simp only [List.mem_cons, List.not_mem_nil, or_false] at hc
    rcases hc with rfl | rfl <;> rfl

theorem forms_agree_sample :
    sample.Renderable ∧ ∃ node x y, elementValue (sample.element true) = .ok (.map node) ∧
      Contents.ofDocument node "opac" = .ok x ∧
      Contents.ofDocument (sample.document ⟨.native, false, false⟩) "opac" = .ok y ∧
      (∀ name, (Definition.mk "opac" 1 none x).endpoint? name =
        (Definition.mk "opac" 1 none y).endpoint? name) ∧
      (∀ code catalogue, (Definition.mk "opac" 1 none x).resolve code catalogue =
        (Definition.mk "opac" 1 none y).resolve code catalogue) := by
  obtain ⟨node, x, y, hnode, hx, hy, _, _, he, _, hr, _⟩ :=
    forms_agree sample sample_renderable true false false "opac" 1 none
  exact ⟨sample_renderable, node, x, y, hnode, hx, hy, he, hr⟩

end Plan

end LibraryCatalogue
