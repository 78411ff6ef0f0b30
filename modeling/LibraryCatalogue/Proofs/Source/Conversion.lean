import LibraryCatalogue.Error.Basic
import LibraryCatalogue.Proofs.Formats.Elements
import LibraryCatalogue.Proofs.Occurrences
import Mathlib.Data.List.Induction

/-!
# What an element writes

Attributes, single children, rows of children and the text of an element compete for the same names.

* `childrenAt`, `attributeAt`, `fieldAt` — who wins: children over attributes, attributes over the text;
  the children of a list name are all kept, and of others the last;
* `Gathered` — what the entries of an element hold after some of its children; `Gathered.addChild`,
  `addChild_of_clash` and `Gathered.addText` say what one more child, and the text, do to them;
* `Element.Writes`, `Element.WritesAll` — the raw value of an element, as a relation;
* `Element.Clashing` — somewhere in a tree an attribute stands in the place of a list;
* `childEntries_cases`, `elementValue_cases` — children, and elements, are converted or clash;
* `element_converted` — what a conversion gives, and when there is none.
-/

namespace LibraryCatalogue

open Value
open Xml (Element)

namespace Xml.Element

/-- The attributes of an element. -/
def attributes : Element → List (String × String)
  | .mk _ attributes _ _ => attributes

/-- The children of an element. -/
def children : Element → List Element
  | .mk _ _ _ children => children

end Xml.Element

namespace Value

/-! ## Keys that are texts -/

/-- Writing at a name that is new adds the name at the end. -/
theorem names_insert {names : List String} {entries : Entries}
    (h : entries.map (·.1) = names.map .text) (name : String) (v : Value) :
    (insert (.text name) v entries).map (·.1) =
      (if name ∈ names then names else names ++ [name]).map .text := by
  induction entries generalizing names with
  | nil =>
    obtain rfl : names = [] := by simpa using h.symm
    rfl
  | cons e rest ih =>
    obtain ⟨k, w⟩ := e
    cases names with
    | nil => cases h
    | cons n names =>
      obtain ⟨rfl, hrest⟩ := List.cons.inj h
      rw [insert]
      by_cases hn : n = name
      · subst hn
        simpa [sameKey] using hrest
      · have hkey : ¬ sameKey (.text n) (.text name) = true := by simpa [sameKey] using hn
        rw [if_neg hkey, List.map_cons, ih hrest]
        have hne : ¬ name = n := fun he => hn he.symm
        by_cases hmem : name ∈ names <;> simp [hmem, hne]

theorem get?_eq_none_of_names {names : List String} {entries : Entries}
    (h : entries.map (·.1) = names.map .text) {name : String} (hname : name ∉ names) :
    get? entries name = none := by
  induction entries generalizing names with
  | nil => rfl
  | cons e rest ih =>
    obtain ⟨k, w⟩ := e
    cases names with
    | nil => cases h
    | cons n names =>
      obtain ⟨rfl, hrest⟩ := List.cons.inj h
      rw [List.mem_cons, not_or] at hname
      rw [get?_cons, if_neg (Ne.symm hname.1), ih hrest hname.2]

/-- Mappings with the same names for keys, all different, and the same values at them are the same. -/
theorem eq_of_get? {names : List String} {a b : Entries} (hnames : names.Nodup)
    (ha : a.map (·.1) = names.map .text) (hb : b.map (·.1) = names.map .text)
    (h : ∀ name, get? a name = get? b name) : a = b := by
  induction names generalizing a b with
  | nil =>
    obtain rfl : a = [] := by simpa using ha
    obtain rfl : b = [] := by simpa using hb
    rfl
  | cons n names ih =>
    obtain ⟨hn, hrest⟩ := List.nodup_cons.1 hnames
    obtain ⟨⟨k, v⟩, as, rfl, hk, has⟩ := List.map_eq_cons_iff.1 ha
    obtain ⟨⟨l, w⟩, bs, rfl, hl, hbs⟩ := List.map_eq_cons_iff.1 hb
    obtain rfl : k = .text n := hk
    obtain rfl : l = .text n := hl
    have hfirst : v = w := by simpa [get?_cons] using h n
    have hothers : as = bs := by
      refine ih hrest has hbs fun name => ?_
      by_cases hname : n = name
      · subst hname
        rw [get?_eq_none_of_names has hn, get?_eq_none_of_names hbs hn]
      · simpa [get?_cons, hname] using h name
    rw [hfirst, hothers]

end Value

namespace Source

/-! ## Who wins -/

/-- The values of the children with a name, in document order. -/
def valuesAt (rows : List (String × Value)) (name : String) : List Value :=
  (rows.filter (·.1 == name)).map (·.2)

/-- What the children of an element write under a name: a list of all of them when the name is that of
a list element, and else the last of them. -/
def childrenAt (rows : List (String × Value)) (name : String) : Option Value :=
  if name ∈ listElements ∧ valuesAt rows name ≠ [] then some (.list (valuesAt rows name))
  else (valuesAt rows name).getLast?

/-- What the attributes of an element write under a name. -/
def attributeAt (attributes : List (String × String)) (name : String) : Option Value :=
  ((attributes.filter (·.1 == name)).getLast?).map fun a => .text a.2

/-- What is under a name in an element: what its children write there, or else its attribute, or else,
under the key of texts, its text unless that is empty. -/
def fieldAt (attributes : List (String × String)) (rows : List (String × Value)) (text : String)
    (name : String) : Option Value :=
  (childrenAt rows name).or ((attributeAt attributes name).or
    (if name = textKey ∧ text ≠ "" then some (.text text) else none))

/-- The names in an element, in the order in which they first occur: attributes, children, text. -/
def namesOf (attributes : List (String × String)) (rows : List (String × Value)) (text : String) :
    List String :=
  (attributes.map (·.1) ++ rows.map (·.1) ++ if text = "" then [] else [textKey]).eraseDups

/-- The entries of an element hold what its attributes, the children that `rows` stands for and its
text write, and nothing else; no attribute stands in the place of a list. -/
structure Gathered (attributes : List (String × String)) (rows : List (String × Value))
    (text : String) (entries : Entries) : Prop where
  apart : ∀ name ∈ rows.map (·.1), name ∈ listElements → name ∉ attributes.map (·.1)
  keys : entries.map (·.1) = (namesOf attributes rows text).map .text
  fields : ∀ name, get? entries name = fieldAt attributes rows text name

section Gathered

variable {attributes : List (String × String)} {rows : List (String × Value)} {text : String}
  {node : Entries} {name : String}

/-- The entries of an element are decided by what it is made of. -/
theorem Gathered.unique {a b : Entries} (ha : Gathered attributes rows text a)
    (hb : Gathered attributes rows text b) : a = b :=
  eq_of_get? (nodup_eraseDups _) ha.keys hb.keys fun name => by rw [ha.fields, hb.fields]

theorem valuesAt_concat (rows : List (String × Value)) (n : String) (v : Value) (name : String) :
    valuesAt (rows ++ [(n, v)]) name =
      if n = name then valuesAt rows name ++ [v] else valuesAt rows name := by
  unfold valuesAt
  by_cases h : n = name <;> simp [List.filter_append, h]

theorem valuesAt_eq_nil (h : name ∉ rows.map (·.1)) : valuesAt rows name = [] := by
  rw [valuesAt, List.map_eq_nil_iff, List.filter_eq_nil_iff]
  intro row hrow hname
  exact h (List.mem_map.2 ⟨row, hrow, by simpa using hname⟩)

theorem attributeAt_eq_none (h : name ∉ attributes.map (·.1)) : attributeAt attributes name = none := by
  have hnone : attributes.filter (·.1 == name) = [] := by
    rw [List.filter_eq_nil_iff]
    intro a ha hname
    exact h (List.mem_map.2 ⟨a, ha, by simpa using hname⟩)
  rw [attributeAt, hnone]
  rfl

theorem exists_attributeAt (h : name ∈ attributes.map (·.1)) :
    ∃ s, attributeAt attributes name = some (.text s) := by
  obtain ⟨a, ha, rfl⟩ := List.mem_map.1 h
  have hne : attributes.filter (·.1 == a.1) ≠ [] :=
    List.ne_nil_of_mem (List.mem_filter.2 ⟨ha, by simp⟩)
  exact ⟨_, by rw [attributeAt, List.getLast?_eq_some_getLast hne]; rfl⟩

theorem attributeAt_concat (attributes : List (String × String)) (n s name : String) :
    attributeAt (attributes ++ [(n, s)]) name =
      if n = name then some (.text s) else attributeAt attributes name := by
  unfold attributeAt
  by_cases h : n = name <;> simp [List.filter_append, h]

/-- Before the first child there are the attributes. -/
theorem gathered_attributes (attributes : List (String × String)) :
    Gathered attributes [] "" (attributeEntries attributes) := by
  induction attributes using List.reverseRecOn with
  | nil =>
    refine ⟨by simp, rfl, fun name => ?_⟩
    simp [fieldAt, childrenAt, valuesAt, attributeAt, attributeEntries, ofEntries, get?, lookup?]
  | append_singleton attributes a ih =>
    obtain ⟨n, s⟩ := a
    have hstep : attributeEntries (attributes ++ [(n, s)]) =
        insert (.text n) (.text s) (attributeEntries attributes) := by
      simp [attributeEntries, ofEntries, List.foldl_append]
    refine ⟨by simp, ?_, fun name => ?_⟩
    · rw [hstep, names_insert ih.keys]
      simp only [namesOf, List.map_nil, List.append_nil, if_true, List.map_append, List.map_cons,
        eraseDups_concat, List.mem_eraseDups]
    · rw [hstep, get?_insert, ih.fields]
      simp only [fieldAt, attributeAt_concat]
      by_cases h : n = name <;> simp [h, childrenAt, valuesAt]

/-- What one more child does when no attribute stands in the place of a list. -/
theorem Gathered.addChild (h : Gathered attributes rows "" node)
    (hname : name ∈ listElements → name ∉ attributes.map (·.1)) (value : Value) :
    ∃ node', addChild name value node = .ok node' ∧
      Gathered attributes (rows ++ [(name, value)]) "" node' := by
  obtain ⟨w, hw, hadd⟩ : ∃ w, childrenAt (rows ++ [(name, value)]) name = some w ∧
      Source.addChild name value node = .ok (insert (.text name) w node) := by
    unfold Source.addChild childrenAt
    simp only [valuesAt_concat, if_true]
    by_cases hlist : name ∈ listElements
    · refine ⟨.list (valuesAt rows name ++ [value]), by simp [hlist], ?_⟩
      have hget : get? node name = childrenAt rows name := by
        simp [h.fields, fieldAt, attributeAt_eq_none (hname hlist)]
      rw [if_pos (List.contains_iff_mem.2 hlist), hget]
      cases hvalues : valuesAt rows name <;> simp [childrenAt, hvalues, hlist]
    · exact ⟨value, by simp [hlist], by simp [hlist]⟩
  refine ⟨_, hadd, ?_, ?_, fun name' => ?_⟩
  · simp only [List.map_append, List.map_singleton, List.forall_mem_append, List.forall_mem_singleton]
    exact ⟨h.apart, hname⟩
  · rw [names_insert h.keys]
    simp only [namesOf, if_true, List.append_nil, List.map_append, List.map_singleton,
      ← List.append_assoc, eraseDups_concat, List.mem_eraseDups]
  · rw [get?_insert, h.fields]
    simp only [fieldAt]
    by_cases hn : name = name'
    · subst hn
      simp [hw]
    · simp [hn, childrenAt, valuesAt_concat]

/-- An attribute in the place of a list stops the first child that would be in the list. -/
theorem Gathered.addChild_of_clash (h : Gathered attributes rows "" node)
    (hname : name ∈ listElements ∧ name ∈ attributes.map (·.1)) (value : Value) :
    Source.addChild name value node = .error name := by
  have hrows : valuesAt rows name = [] :=
    valuesAt_eq_nil fun hmem => h.apart name hmem hname.1 hname.2
  obtain ⟨s, hs⟩ := exists_attributeAt hname.2
  have hget : get? node name = some (.text s) := by
    simp [h.fields, fieldAt, childrenAt, hrows, hs]
  rw [Source.addChild, if_pos (List.contains_iff_mem.2 hname.1), hget]

/-- The text comes last. -/
theorem Gathered.addText (h : Gathered attributes rows "" node) (text : String) :
    Gathered attributes rows text (addText text node) := by
  by_cases htext : text = ""
  · subst htext
    exact h
  have hempty : text.isEmpty = false := by simpa using htext
  have hnames : namesOf attributes rows text =
      if textKey ∈ namesOf attributes rows "" then namesOf attributes rows ""
      else namesOf attributes rows "" ++ [textKey] := by
    simp only [namesOf, htext, if_true, if_false, List.append_nil, eraseDups_concat,
      List.mem_eraseDups]
  have hfields (name : String) : fieldAt attributes rows text name =
      (get? node name).or (if name = textKey then some (.text text) else none) := by
    simp [h.fields, fieldAt, htext, Option.or_assoc]
  cases hget : get? node textKey with
  | none =>
    have hadd : Source.addText text node = insert (.text textKey) (.text text) node := by
      simp [Source.addText, hempty, hget, insert_of_absent]
    rw [hadd]
    refine ⟨h.apart, ?_, fun name => ?_⟩
    · rw [names_insert h.keys, hnames]
    · rw [get?_insert, hfields]
      by_cases hname : textKey = name
      · subst hname
        simp [hget]
      · simp [hname, Ne.symm hname]
  | some v =>
    have hadd : Source.addText text node = node := by simp [Source.addText, hget]
    have hmem : textKey ∈ namesOf attributes rows "" := by
      by_contra hnot
      rw [get?_eq_none_of_names h.keys hnot] at hget
      cases hget
    rw [hadd]
    refine ⟨h.apart, ?_, fun name => ?_⟩
    · rw [h.keys, hnames, if_pos hmem]
    · rw [hfields]
      by_cases hname : name = textKey
      · subst hname
        simp [hget]
      · simp [hname]

end Gathered

end Source

/-! ## The raw value of an element -/

namespace Xml.Element

open Source

mutual

/-- The raw value that an element writes: its text, or the entries that are gathered in it. -/
inductive Writes : Element → Value → Prop where
  | text {name : String} {attributes : List (String × String)} {text : String}
      {children : List Element} (hname : name ∈ textElements) :
      Writes (.mk name attributes text children) (.text (trim text))
  | map {name : String} {attributes : List (String × String)} {text : String}
      {children : List Element} {rows : List (String × Value)} {entries : Entries}
      (hname : name ∉ textElements) (hrows : WritesAll children rows)
      (hentries : Gathered attributes rows (trim text) entries) :
      Writes (.mk name attributes text children) (.map entries)

/-- The names of some elements, with the raw values that they write. -/
inductive WritesAll : List Element → List (String × Value) → Prop where
  | nil : WritesAll [] []
  | cons {e : Element} {v : Value} {rest : List Element} {rows : List (String × Value)}
      (he : Writes e v) (hrest : WritesAll rest rows) : WritesAll (e :: rest) ((e.name, v) :: rows)

end

/-- From an element one comes to another, going from elements to their children, without any that is
only text. -/
inductive Reaches : Element → Element → Prop where
  | self {e : Element} (h : e.name ∉ textElements) : Reaches e e
  | child {e c x : Element} (h : e.name ∉ textElements) (hc : c ∈ e.children) (hx : Reaches c x) :
      Reaches e x

/-- An attribute stands in the place of a list that children make. -/
def Clashes (e : Element) : Prop :=
  ∃ c ∈ e.children, c.name ∈ listElements ∧ c.name ∈ e.attributes.map (·.1)

/-- Somewhere in a tree, outside elements that are only text, an attribute stands in the place of a
list. -/
def Clashing (e : Element) : Prop :=
  ∃ x, e.Reaches x ∧ x.Clashes

mutual

/-- An element writes one raw value at most. -/
theorem Writes.unique : ∀ {e : Element} {v w : Value}, e.Writes v → e.Writes w → v = w
  | .mk _ _ _ _, _, _, h, h' => by
    cases h with
    | text hname =>
      cases h' with
      | text _ => rfl
      | map hname' => exact absurd hname hname'
    | map hname hrows hentries =>
      cases h' with
      | text hname' => exact absurd hname' hname
      | map _ hrows' hentries' =>
        obtain rfl := WritesAll.unique hrows hrows'
        rw [hentries.unique hentries']

theorem WritesAll.unique : ∀ {es : List Element} {rows rows' : List (String × Value)},
    WritesAll es rows → WritesAll es rows' → rows = rows'
  | [], _, _, .nil, .nil => rfl
  | _ :: _, _, _, .cons he hrest, .cons he' hrest' => by
    rw [Writes.unique he he', WritesAll.unique hrest hrest']

end

theorem WritesAll.exists_of_mem {es : List Element} {rows : List (String × Value)}
    (h : WritesAll es rows) {c : Element} (hc : c ∈ es) :
    c.name ∈ rows.map (·.1) ∧ ∃ v, c.Writes v := by
  induction es generalizing rows with
  | nil => cases hc
  | cons e es ih =>
    cases h with
    | cons he hrest =>
      rcases List.mem_cons.1 hc with rfl | hc
      · exact ⟨by simp, _, he⟩
      · obtain ⟨hname, hv⟩ := ih hrest hc
        exact ⟨List.mem_cons_of_mem _ hname, hv⟩

/-- A clashing element writes nothing. -/
theorem Writes.not_clashing {e : Element} {v : Value} (h : e.Writes v) : ¬ e.Clashing := by
  rintro ⟨x, hx, hclash⟩
  induction hx generalizing v with
  | self hname =>
    cases h with
    | text hname' => exact hname hname'
    | map _ hrows hentries =>
      obtain ⟨c, hc, hlist, hattribute⟩ := hclash
      exact hentries.apart c.name (hrows.exists_of_mem hc).1 hlist hattribute
  | child hname hc _ ih =>
    cases h with
    | text hname' => exact hname hname'
    | map _ hrows _ =>
      obtain ⟨v, hv⟩ := (hrows.exists_of_mem hc).2
      exact ih hv hclash

end Xml.Element

/-! ## Conversion -/

namespace Source

open Xml.Element

mutual

/-- **An element is converted to what it writes, or it clashes.** -/
theorem elementValue_cases : ∀ e : Element,
    (∃ v, elementValue e = .ok v ∧ e.Writes v) ∨
      ∃ name ∈ listElements, elementValue e = .error name ∧ e.Clashing
  | .mk name attributes content children => by
    by_cases hname : name ∈ textElements
    · refine Or.inl ⟨.text (trim content), ?_, .text hname⟩
      rw [elementValue, if_pos (List.contains_iff_mem.2 hname)]
    · have hcontains : textElements.contains name = false := by simpa using hname
      rcases childEntries_cases children (gathered_attributes attributes) with
        ⟨rows, node, hnode, hrows, hgathered⟩ | ⟨clash, hlist, herror, hclash⟩
      · exact Or.inl ⟨_, elementValue_mk hcontains hnode,
          .map hname hrows (by simpa using hgathered.addText (trim content))⟩
      · refine Or.inr ⟨clash, hlist, ?_, ?_⟩
        · rw [elementValue, hcontains, herror]
          rfl
        · rcases hclash with hown | ⟨c, hc, x, hx, hxclash⟩
          · exact ⟨_, .self hname, hown⟩
          · exact ⟨x, .child hname hc hx, hxclash⟩

/-- Children are gathered one by one, until one of them clashes, or an attribute stands in the place of
one. -/
theorem childEntries_cases : ∀ (children : List Element) {attributes : List (String × String)}
    {rows : List (String × Value)} {node : Entries}, Gathered attributes rows "" node →
    (∃ more node', childEntries node children = .ok node' ∧ WritesAll children more ∧
      Gathered attributes (rows ++ more) "" node') ∨
      ∃ name ∈ listElements, childEntries node children = .error name ∧
        ((∃ c ∈ children, c.name ∈ listElements ∧ c.name ∈ attributes.map (·.1)) ∨
          ∃ c ∈ children, c.Clashing)
  | [], _, _, node, h => Or.inl ⟨[], node, childEntries.eq_1 _, .nil, by simpa using h⟩
  | e :: rest, attributes, rows, node, h => by
    rw [childEntries_cons]
    rcases elementValue_cases e with ⟨v, hv, hwrites⟩ | ⟨clash, hlist, herror, hclash⟩
    · rw [hv]
      simp only [Except.bind]
      by_cases hname : e.name ∈ listElements ∧ e.name ∈ attributes.map (·.1)
      · rw [h.addChild_of_clash hname]
        exact Or.inr ⟨e.name, hname.1, rfl, Or.inl ⟨e, List.mem_cons_self, hname⟩⟩
      · obtain ⟨node', hadd, hgathered⟩ := h.addChild (fun hl ha => hname ⟨hl, ha⟩) v
        rw [hadd]
        rcases childEntries_cases rest hgathered with
          ⟨more, node'', hnode, hrows, hmore⟩ | ⟨clash, hlist, herror, hclash⟩
        · exact Or.inl ⟨(e.name, v) :: more, node'', hnode, .cons hwrites hrows,
            by simpa using hmore⟩
        · refine Or.inr ⟨clash, hlist, herror, hclash.imp ?_ ?_⟩
          · exact fun ⟨c, hc, hown⟩ => ⟨c, List.mem_cons_of_mem e hc, hown⟩
          · exact fun ⟨c, hc, hbelow⟩ => ⟨c, List.mem_cons_of_mem e hc, hbelow⟩
    · rw [herror]
      exact Or.inr ⟨clash, hlist, rfl, Or.inr ⟨e, List.mem_cons_self, hclash⟩⟩

end

end Source

/-- **An element is converted to what it writes, and there is no conversion exactly when it clashes.**
What it writes is its stripped text, when it is only text.  Else it is a mapping: under the name of a
list element stand all children with that name, in order; under any other the last child, or else the
attribute, or else, for the key of texts, the text. -/
theorem element_converted (e : Element) :
    (∀ v, Source.elementValue e = .ok v ↔ e.Writes v) ∧
      ((∃ f, (Source.elementValue e).mapError Failure.nameClash = .error f ∧ f.kind = .attribute) ↔
        e.Clashing) := by
  rcases Source.elementValue_cases e with ⟨v, hv, hwrites⟩ | ⟨name, _, herror, hclash⟩
  · rw [hv]
    refine ⟨fun w => ⟨?_, fun hw => congrArg Except.ok (hwrites.unique hw)⟩, ?_, ?_⟩
    · rintro ⟨⟩
      exact hwrites
    · rintro ⟨f, hf, _⟩
      cases hf
    · exact fun hclash => absurd hclash hwrites.not_clashing
  · rw [herror]
    refine ⟨fun w => ⟨?_, fun hw => absurd hclash hw.not_clashing⟩, fun _ => hclash, fun _ => ?_⟩
    · rintro ⟨⟩
    · exact ⟨.nameClash name, rfl, rfl⟩

/-- Children with the name of a list are gathered around others, the last of which wins over an
attribute. -/
example :
    Source.elementValue (.mk "setvalue" [("tag", "002@"), ("note", "a")] " b "
      [.mk "condition" [] "" [], .mk "note" [] "" [], .mk "condition" [] "Aa" []]) =
      .ok (.map [(.text "tag", .text "002@"), (.text "note", .map []),
        (.text "condition", .list [.map [], .map [(.text "value", .text "Aa")]]),
        (.text "value", .text "b")]) := rfl

end LibraryCatalogue
