import LibraryCatalogue.Proofs.Formats.Plan

/-!
# Trees of elements as documents

* `elementValue_mk`, `childEntries_cons` — the raw value of an element, child by child;
* `childEntries_row` — children of one list name make one list, in order;
* `childEntries_blockElements` — a block around such children makes one mapping;
* `Plan.elementValue_element` — the tree of a plan is its document in which all scalars are texts.
-/

namespace LibraryCatalogue

open Schema Source Value
open Xml (Element)

/-- The name of an element. -/
def Xml.Element.name : Element → String
  | .mk name _ _ _ => name

/-- The style of documents that come from trees of elements: texts only, and no empty lists. -/
def Style.ofElements (bareBlocks : Bool) : Style :=
  ⟨.worded, true, bareBlocks⟩

namespace Source

/-! ## One element -/

/-- The entries that attributes write, when their names are different. -/
theorem attributeEntries_attributesOf {slots : List (String × Option String)}
    (h : (slots.map (·.1)).Nodup) :
    attributeEntries (attributesOf slots) = fieldsOf (textSlots slots) := by
  have hfields : (attributesOf slots).map (fun a => (Value.text a.1, Value.text a.2)) =
      fieldsOf (textSlots slots) := by
    clear h
    induction slots with
    | nil => rfl
    | cons slot rest ih =>
      obtain ⟨n, s?⟩ := slot
      cases s? with
      | none => exact ih
      | some s =>
        show (Value.text n, Value.text s) :: _ = (Value.text n, Value.text s) :: _
        exact congrArg _ ih
  have hnames : (textSlots slots).map (·.1) = slots.map (·.1) := by
    simp [textSlots, Function.comp_def]
  show ofEntries ((attributesOf slots).map fun a => (Value.text a.1, Value.text a.2)) = _
  rw [hfields, ofEntries_fieldsOf (by rwa [hnames])]

/-- The raw value of an element that is more than its text. -/
theorem elementValue_mk {name : String} (hname : textElements.contains name = false)
    {attributes : List (String × String)} {text : String} {children : List Element} {node : Entries}
    (h : childEntries (attributeEntries attributes) children = .ok node) :
    elementValue (.mk name attributes text children) = .ok (.map (addText (trim text) node)) := by
  rw [elementValue, hname, h]
  rfl

/-! ## Children -/

theorem childEntries_cons (node : Entries) (e : Element) (rest : List Element) :
    childEntries node (e :: rest) =
      (elementValue e).bind fun value =>
        (addChild e.name value node).bind fun node => childEntries node rest := by
  obtain ⟨name, attributes, text, children⟩ := e
  rw [childEntries]
  rfl

/-- A child under a name of its own. -/
theorem childEntries_single {node : Entries} {e : Element} {v : Value}
    (hname : listElements.contains e.name = false) (he : elementValue e = .ok v)
    (hnew : get? node e.name = none) (rest : List Element) :
    childEntries node (e :: rest) = childEntries (node ++ [(.text e.name, v)]) rest := by
  rw [childEntries_cons, he]
  simp only [Except.bind, addChild, hname, Bool.false_eq_true, if_false, insert_of_absent hnew]

section Rows

variable {α : Type} {name : String} {el : α → Element} {val : α → Value} {xs : List α}
  {node : Entries}

/-- Further children of a list name go to the end of the list. -/
theorem childEntries_more (hlist : listElements.contains name = true)
    (h : ∀ x ∈ xs, (el x).name = name ∧ elementValue (el x) = .ok (val x))
    (hnew : get? node name = none) (items : List Value) (rest : List Element) :
    childEntries (node ++ [(.text name, .list items)]) (xs.map el ++ rest) =
      childEntries (node ++ [(.text name, .list (items ++ xs.map val))]) rest := by
  -- The list so far grows with every child, and the entries before it stay.
  induction xs generalizing items with
  | nil => simp
  | cons x xs ih =>
    obtain ⟨hn, hv⟩ := h x List.mem_cons_self
    have hget : get? (node ++ [(.text name, .list items)]) name = some (.list items) := by
      rw [get?_append, hnew, get?_cons, if_pos rfl]
      rfl
    have hadd : addChild name (val x) (node ++ [(.text name, .list items)]) =
        .ok (node ++ [(.text name, .list (items ++ [val x]))]) := by
      unfold addChild
      simp only [hlist, if_true, hget]
      rw [insert_append hnew]
      simp [Value.insert, sameKey]
    rw [List.map_cons, List.cons_append, childEntries_cons, hv, hn]
    simp only [Except.bind, hadd]
    rw [ih fun y hy => h y (List.mem_cons_of_mem x hy), List.append_assoc]
    rfl

/-- **Children of one list name make one list, in order.** -/
theorem childEntries_row (hlist : listElements.contains name = true)
    (h : ∀ x ∈ xs, (el x).name = name ∧ elementValue (el x) = .ok (val x))
    (hnew : get? node name = none) (rest : List Element) :
    childEntries node (xs.map el ++ rest) =
      childEntries (node ++ fieldsOf [(name, listSlot true (xs.map val))]) rest := by
  cases xs with
  | nil => simp [listSlot, fieldsOf]
  | cons x xs =>
    obtain ⟨hn, hv⟩ := h x List.mem_cons_self
    have hadd : addChild name (val x) node = .ok (node ++ [(.text name, .list [val x])]) := by
      unfold addChild
      simp only [hlist, if_true, hnew, insert_of_absent hnew]
    rw [List.map_cons, List.cons_append, childEntries_cons, hv, hn]
    simp only [Except.bind, hadd]
    rw [childEntries_more hlist (fun y hy => h y (List.mem_cons_of_mem x hy)) hnew]
    rfl

theorem childEntries_map (hlist : listElements.contains name = true)
    (h : ∀ x ∈ xs, (el x).name = name ∧ elementValue (el x) = .ok (val x))
    (hnew : get? node name = none) :
    childEntries node (xs.map el) =
      .ok (node ++ fieldsOf [(name, listSlot true (xs.map val))]) := by
  have hrow := childEntries_row hlist h hnew []
  rw [List.append_nil] at hrow
  exact hrow

/-- **A block around children of one list name makes one mapping.** -/
theorem childEntries_blockElements {block : String} (bare : Bool)
    (hblock : textElements.contains block = false ∧ listElements.contains block = false)
    (hlist : listElements.contains name = true)
    (h : ∀ x ∈ xs, (el x).name = name ∧ elementValue (el x) = .ok (val x))
    (hnew : get? node block = none) (rest : List Element) :
    childEntries node (blockElements bare block (xs.map el) ++ rest) =
      childEntries
        (node ++ fieldsOf [(block, (Style.ofElements bare).blockSlot name (xs.map val))]) rest := by
  unfold blockElements Style.blockSlot Style.ofElements
  have hempty : (xs.map el).isEmpty = (xs.map val).isEmpty := by cases xs <;> rfl
  rw [hempty]
  split
  · simp [fieldsOf]
  · have hvalue : elementValue (.mk block [] "" (xs.map el)) =
        .ok (.map (fieldsOf [(name, listSlot true (xs.map val))])) :=
      elementValue_mk hblock.1 (childEntries_map hlist h rfl)
    rw [List.cons_append, List.nil_append,
      childEntries_single (e := .mk block [] "" (xs.map el)) hblock.2 hvalue hnew]
    rfl

end Rows

end Source

/-! ## The tree of a plan -/

theorem nodup_ruleTexts (tag : String) (subtag : Option String) (value : String)
    (mode : Option String) : ((ruleTexts tag subtag value mode).map (·.1)).Nodup := by
  simp [ruleTexts]

namespace Schema

theorem ConditionEntry.elementValue_element (c : ConditionEntry) :
    elementValue c.element = .ok c.form := by
  unfold element
  rw [elementValue_mk rfl (childEntries.eq_1 _), texts,
    attributeEntries_attributesOf (nodup_ruleTexts _ _ _ _)]
  rfl

theorem RuleEntry.elementValue_element (bare : Bool) (r : RuleEntry) :
    elementValue r.element = .ok (r.form (.ofElements bare)) := by
  have hnew : get? (fieldsOf (textSlots r.texts)) "condition" = none := by
    simp [texts, ruleTexts, textSlots]
  have hchildren : childEntries (attributeEntries (attributesOf r.texts))
      (r.conditions.map ConditionEntry.element) = .ok (fieldsOf (r.slots (.ofElements bare))) := by
    have hattributes : attributeEntries (attributesOf r.texts) = fieldsOf (textSlots r.texts) :=
      attributeEntries_attributesOf (nodup_ruleTexts _ _ _ _)
    rw [hattributes, slots, fieldsOf_append]
    exact childEntries_map rfl (fun c _ => ⟨rfl, c.elementValue_element⟩) hnew
  exact elementValue_mk rfl hchildren

/-- The code of a special mapping is found again in the text of its element. -/
theorem SpecialMappingEntry.elementValue_element {s : SpecialMappingEntry}
    (h : s.code ≠ "" ∧ trim s.code = s.code) : elementValue s.element = .ok s.form := by
  have hchildren : childEntries (attributeEntries [("type", s.doctypeTitle)]) [] =
      .ok [(.text "type", .text s.doctypeTitle)] := rfl
  have hempty : s.code.isEmpty = false := by simpa using h.1
  unfold element
  rw [elementValue_mk rfl hchildren, h.2]
  simp [addText, hempty, textKey, form, fieldsOf, get?, lookup?, sameKey]

theorem elementValue_codeElement {code : String} (h : trim code = code) :
    elementValue (codeElement code) = .ok (.text code) := by
  unfold codeElement
  rw [elementValue, h]
  rfl

theorem DoctypeEntry.elementValue_element (bare : Bool) {d : DoctypeEntry}
    (h : ∀ code ∈ d.codes, trim code = code) :
    elementValue d.element = .ok (.map (fieldsOf (d.slots (.ofElements bare)))) :=
  elementValue_mk rfl
    (childEntries_map rfl (fun code hc => ⟨rfl, elementValue_codeElement (h code hc)⟩) rfl)

end Schema

theorem CataloguePlan.elementValue_connectionElement (bare : Bool) (c : CataloguePlan) :
    elementValue c.connectionElement =
      .ok (.map (fieldsOf (c.connectionSlots (.ofElements bare)))) := by
  have hnames : (c.connectionTexts.map (·.1)).Nodup := by simp [connectionTexts]
  unfold connectionElement
  rw [elementValue_mk rfl (childEntries.eq_1 _), attributeEntries_attributesOf hnames]
  rfl

theorem CataloguePlan.elementValue_element (bare : Bool) {c : CataloguePlan} (h : c.Renderable) :
    elementValue (c.element bare) = .ok (.map (fieldsOf (c.slots (.ofElements bare)))) := by
  obtain ⟨head, hhead⟩ : ∃ head, head = fieldsOf [("title", some (.text c.title)),
    ("config", some (.map (fieldsOf (c.connectionSlots (.ofElements bare)))))] := ⟨_, rfl⟩
  obtain ⟨block, hblock⟩ : ∃ block, block = fieldsOf [("beautify",
    (Style.ofElements bare).blockSlot "setvalue" (c.rules.map (RuleEntry.form (.ofElements bare))))] :=
    ⟨_, rfl⟩
  have hconfig : ∀ rest, childEntries (attributeEntries [("title", c.title)])
      (c.connectionElement :: rest) = childEntries head rest := by
    intro rest
    rw [childEntries_single rfl (c.elementValue_connectionElement bare) rfl, hhead]
    rfl
  have hrules : ∀ rest, childEntries head
      (blockElements bare "beautify" (c.rules.map RuleEntry.element) ++ rest) =
        childEntries (head ++ block) rest := by
    intro rest
    have hnew : get? head "beautify" = none := by rw [hhead]; rfl
    rw [hblock]
    refine childEntries_blockElements bare ⟨rfl, rfl⟩ rfl ?_ hnew rest
    exact fun r _ => ⟨rfl, RuleEntry.elementValue_element bare r⟩
  have hspecials : childEntries (head ++ block)
      (c.specialMappings.map SpecialMappingEntry.element) = .ok (head ++ block ++
        fieldsOf [("specialmapping", listSlot true
          (c.specialMappings.map SpecialMappingEntry.form))]) := by
    have hnew : get? (head ++ block) "specialmapping" = none := by
      rw [hhead, hblock, get?_append]
      simp
    refine childEntries_map rfl ?_ hnew
    exact fun s hs => ⟨rfl, SpecialMappingEntry.elementValue_element (h.codes s hs)⟩
  have hchildren : childEntries (attributeEntries [("title", c.title)])
      (c.connectionElement :: (blockElements bare "beautify" (c.rules.map RuleEntry.element) ++
        c.specialMappings.map SpecialMappingEntry.element)) =
          .ok (fieldsOf (c.slots (.ofElements bare))) := by
    rw [hconfig, hrules, hspecials, hhead, hblock, ← fieldsOf_append, ← fieldsOf_append]
    rfl
  exact elementValue_mk rfl hchildren

/-- **The tree of a plan is its document in which all scalars are texts.** -/
theorem Plan.elementValue_element (bare : Bool) {p : Plan} (h : p.Renderable) :
    elementValue (p.element bare) = .ok (.map (p.document (.ofElements bare))) := by
  have hdoctypes : ∀ rest, childEntries [] (blockElements bare "doctypes"
      (p.doctypes.map DoctypeEntry.element) ++ rest) =
        childEntries (fieldsOf [("doctypes", (Style.ofElements bare).blockSlot "type"
          (p.doctypes.map fun d => .map (fieldsOf (d.slots (.ofElements bare)))))]) rest :=
    childEntries_blockElements bare ⟨rfl, rfl⟩ rfl
      (fun d hd => ⟨rfl, DoctypeEntry.elementValue_element bare (h.codes d hd)⟩) rfl
  have hchildren : childEntries (attributeEntries [])
      (blockElements bare "doctypes" (p.doctypes.map DoctypeEntry.element) ++
        p.catalogues.map (CataloguePlan.element bare)) =
          .ok (p.document (.ofElements bare)) := by
    rw [Plan.document, ← List.singleton_append, fieldsOf_append]
    rw [show attributeEntries [] = [] from rfl, hdoctypes]
    exact childEntries_map rfl
      (fun c hc => ⟨rfl, CataloguePlan.elementValue_element bare (h.catalogues c hc)⟩) (by simp)
  exact elementValue_mk rfl hchildren

end LibraryCatalogue
