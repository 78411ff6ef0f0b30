import LibraryCatalogue.Proofs.Schema.Spelling
import LibraryCatalogue.Source.Element

/-!
# Definitions in two forms

One definition can be written as a nested document, and as a tree of elements.

* `Plan`, `CataloguePlan` — a definition as its author means it; rules, special mappings and document
  types are the entries of the schema;
* `Style` — the choices that one has in writing: spellings, and whether what is empty is left out;
* `Plan.document` — a plan as a document;
* `Plan.element` — a plan as a tree of elements, which has texts only;
* `Plan.Renderable` — what a tree of elements can carry.
-/

namespace LibraryCatalogue

open Schema Value
open Xml (Element)

/-- A catalogue as its author means it. -/
structure CataloguePlan where
  title : String
  description : String
  address : String
  database : String
  port : Nat
  userClause : Option String
  charset : Option String
  rules : List RuleEntry
  specialMappings : List SpecialMappingEntry
deriving DecidableEq, Repr

/-- A definition as its author means it. -/
structure Plan where
  catalogues : List CataloguePlan
  doctypes : List DoctypeEntry
deriving DecidableEq, Repr

/-- The choices that one has in writing a definition: how ports and flags are spelled, and whether
empty lists and blocks around them are left out. -/
structure Style where
  spelling : Spelling
  bareLists : Bool
  bareBlocks : Bool

/-! ## Documents -/

/-- A list in a document; an empty one may be left out. -/
def listSlot (bare : Bool) (items : List Value) : Option Value :=
  if bare && items.isEmpty then none else some (.list items)

/-- A block around a list; one around an empty list may be left out. -/
def Style.blockSlot (w : Style) (name : String) (items : List Value) : Option Value :=
  if w.bareBlocks && items.isEmpty then none
  else some (.map (fieldsOf [(name, listSlot w.bareLists items)]))

/-- Texts in a document. -/
def textSlots (slots : List (String × Option String)) : List (String × Option Value) :=
  slots.map fun (n, s?) => (n, s?.map .text)

/-- The texts that conditions and rules have in common. -/
def ruleTexts (tag : String) (subtag : Option String) (value : String) (mode : Option String) :
    List (String × Option String) :=
  [("tag", some tag), ("subtag", subtag), ("value", some value), ("mode", mode)]

namespace Schema

/-- The texts of a condition. -/
def ConditionEntry.texts (c : ConditionEntry) : List (String × Option String) :=
  ruleTexts c.tag c.subtag c.value c.mode

/-- A condition in a document. -/
def ConditionEntry.form (c : ConditionEntry) : Value :=
  .map (fieldsOf (textSlots c.texts))

/-- The texts of a rule. -/
def RuleEntry.texts (r : RuleEntry) : List (String × Option String) :=
  ruleTexts r.tag r.subtag r.value r.mode

/-- The fields of a rule in a document. -/
def RuleEntry.slots (w : Style) (r : RuleEntry) : List (String × Option Value) :=
  textSlots r.texts ++ [("condition", listSlot w.bareLists (r.conditions.map ConditionEntry.form))]

/-- A rule in a document. -/
def RuleEntry.form (w : Style) (r : RuleEntry) : Value :=
  .map (fieldsOf (r.slots w))

/-- A special mapping in a document. -/
def SpecialMappingEntry.form (s : SpecialMappingEntry) : Value :=
  .map (fieldsOf [("type", some (.text s.doctypeTitle)), ("value", some (.text s.code))])

/-- The fields of a document type in a document. -/
def DoctypeEntry.slots (w : Style) (d : DoctypeEntry) : List (String × Option Value) :=
  [("title", some (.text d.title)),
    ("isPeriodical", some (w.spelling.flag d.periodical)),
    ("isMultiVolume", some (w.spelling.flag d.multiVolume)),
    ("isContainedWork", some (w.spelling.flag d.containedWork)),
    ("mapping", listSlot w.bareLists (d.codes.map .text))]

end Schema

namespace CataloguePlan

/-- How to reach a catalogue, as fields in a document. -/
def connectionSlots (w : Style) (c : CataloguePlan) : List (String × Option Value) :=
  [("description", some (.text c.description)), ("address", some (.text c.address)),
    ("database", some (.text c.database)), ("port", some (w.spelling.port c.port)),
    ("ucnf", c.userClause.map .text), ("charset", c.charset.map .text)]

/-- The fields of a catalogue in a document. -/
def slots (w : Style) (c : CataloguePlan) : List (String × Option Value) :=
  [("title", some (.text c.title)), ("config", some (.map (fieldsOf (c.connectionSlots w)))),
    ("beautify", w.blockSlot "setvalue" (c.rules.map (RuleEntry.form w))),
    ("specialmapping", listSlot w.bareLists (c.specialMappings.map SpecialMappingEntry.form))]

end CataloguePlan

/-- A plan as a document. -/
def Plan.document (w : Style) (p : Plan) : Entries :=
  fieldsOf
    [("doctypes", w.blockSlot "type" (p.doctypes.map fun d => .map (fieldsOf (d.slots w)))),
      ("catalogue", listSlot w.bareLists (p.catalogues.map fun c => .map (fieldsOf (c.slots w))))]

/-! ## Elements -/

/-- Attributes; a name without a text is left out. -/
def attributesOf (slots : List (String × Option String)) : List (String × String) :=
  slots.filterMap fun (n, s?) => s?.map fun s => (n, s)

/-- A block around elements; one around nothing may be left out. -/
def blockElements (bare : Bool) (name : String) (children : List Element) : List Element :=
  if bare && children.isEmpty then [] else [.mk name [] "" children]

/-- A condition as an element. -/
def Schema.ConditionEntry.element (c : ConditionEntry) : Element :=
  .mk "condition" (attributesOf c.texts) "" []

/-- A rule as an element. -/
def Schema.RuleEntry.element (r : RuleEntry) : Element :=
  .mk "setvalue" (attributesOf r.texts) "" (r.conditions.map ConditionEntry.element)

/-- A special mapping as an element; the code is its text. -/
def Schema.SpecialMappingEntry.element (s : SpecialMappingEntry) : Element :=
  .mk "specialmapping" [("type", s.doctypeTitle)] s.code []

/-- An external code as an element. -/
def codeElement (code : String) : Element :=
  .mk "mapping" [] code []

/-- A document type as an element. -/
def Schema.DoctypeEntry.element (d : DoctypeEntry) : Element :=
  .mk "type"
    [("title", d.title), ("isPeriodical", flagWord d.periodical),
      ("isMultiVolume", flagWord d.multiVolume), ("isContainedWork", flagWord d.containedWork)]
    "" (d.codes.map codeElement)

namespace CataloguePlan

/-- How to reach a catalogue, in attributes. -/
def connectionTexts (c : CataloguePlan) : List (String × Option String) :=
  [("description", some c.description), ("address", some c.address), ("database", some c.database),
    ("port", some (toString c.port)), ("ucnf", c.userClause), ("charset", c.charset)]

/-- How to reach a catalogue, as an element. -/
def connectionElement (c : CataloguePlan) : Element :=
  .mk "config" (attributesOf c.connectionTexts) "" []

/-- A catalogue as an element. -/
def element (bare : Bool) (c : CataloguePlan) : Element :=
  .mk "catalogue" [("title", c.title)] ""
    (c.connectionElement :: (blockElements bare "beautify" (c.rules.map RuleEntry.element) ++
      c.specialMappings.map SpecialMappingEntry.element))

end CataloguePlan

/-- A plan as a tree of elements; blocks around nothing may be left out. -/
def Plan.element (bare : Bool) (p : Plan) : Element :=
  .mk "opacCatalogues" [] ""
    (blockElements bare "doctypes" (p.doctypes.map DoctypeEntry.element) ++
      p.catalogues.map (CataloguePlan.element bare))

/-- What a catalogue needs to be written as an element: a port that can be read back, and codes that
are found again in the text of an element. -/
structure CataloguePlan.Renderable (c : CataloguePlan) : Prop where
  port_pos : 0 < c.port
  port_length : (toString c.port).length ≤ integerLengthLimit
  codes : ∀ s ∈ c.specialMappings, s.code ≠ "" ∧ trim s.code = s.code

/-- What a plan needs to be written as a tree of elements. -/
structure Plan.Renderable (p : Plan) : Prop where
  catalogues : ∀ c ∈ p.catalogues, c.Renderable
  codes : ∀ d ∈ p.doctypes, ∀ code ∈ d.codes, trim code = code

end LibraryCatalogue
