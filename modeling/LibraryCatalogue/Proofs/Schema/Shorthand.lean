import LibraryCatalogue.Proofs.Formats.Reading
import LibraryCatalogue.Proofs.Schema.Packing

/-!
# Shorthands in a definition

Where a list is expected one mapping may stand for the list of it, and nothing for a list without
items; where a block is expected nothing may stand for an empty one.  Entries that differ in such
shorthands only are alike, and their checks are too, faults included.

* `SameBut` — mappings that are the same but under some names;
* `RowsAlike`, `BlockAlike`, `CodesAlike` — what may stand for the same under one name;
* `AlikeIn`, `RuleAlike`, `CatalogueAlike`, `DoctypeAlike`, `DocumentAlike` — entries and documents
  that differ in shorthands only;
* `Checked.Alike` — checks with the same findings, or with related results;
* `CatalogueAlike.check_eq`, `DoctypeAlike.check_eq` — alike entries are checked alike.
-/

namespace LibraryCatalogue.Schema

open Value

/-! ## Shorthands -/

/-- Two mappings are the same but for what stands under some names. -/
structure SameBut (names : List String) (x y : Entries) : Prop where
  fields : ∀ name, name ∉ names → get? x name = get? y name
  foreign : foreignKeys x = foreignKeys y

/-- Under a name of two mappings stands the same, or else rows with items in turn that are the same or
related mappings. -/
def RowsAlike (R : Entries → Entries → Prop) (x y : Entries) (name : String) : Prop :=
  get? x name = get? y name ∨
    ∃ vs ws, rowAt? x name = some vs ∧ rowAt? y name = some ws ∧
      List.Forall₂ (fun v w => v = w ∨ ∃ a b, v = .map a ∧ w = .map b ∧ R a b) vs ws

/-- Under a name of two mappings stands the same, or else related blocks. -/
def BlockAlike (R : Entries → Entries → Prop) (x y : Entries) (name : String) : Prop :=
  get? x name = get? y name ∨
    ∃ b c, blockAt? x name = some b ∧ blockAt? y name = some c ∧ R b c

/-- The codes of a document type; one text stands for itself, and nothing for none. -/
def codesAt? (entries : Entries) : Option (List Value) :=
  match get? entries "mapping" with
  | none | some .null => some []
  | some (.text s) => some [.text s]
  | some (.list vs) | some (.tuple vs) | some (.set vs) => some vs
  | _ => none

/-- Two document types have the same codes. -/
def CodesAlike (x y : Entries) : Prop :=
  get? x "mapping" = get? y "mapping" ∨ ∃ vs, codesAt? x = some vs ∧ codesAt? y = some vs

/-- Two mappings are the same but for a list under one name, and its items are the same or related. -/
structure AlikeIn (name : String) (R : Entries → Entries → Prop) (x y : Entries) : Prop where
  others : SameBut [name] x y
  rows : RowsAlike R x y name

/-- Two rules are the same but for the shorthand in their conditions. -/
abbrev RuleAlike : Entries → Entries → Prop :=
  AlikeIn "condition" Eq

/-- Two catalogues are the same but for the shorthands in their rules and special mappings. -/
structure CatalogueAlike (x y : Entries) : Prop where
  others : SameBut ["beautify", "specialmapping"] x y
  rules : BlockAlike (AlikeIn "setvalue" RuleAlike) x y "beautify"
  specialMappings : RowsAlike Eq x y "specialmapping"

/-- Two document types are the same but for the shorthand in their codes. -/
structure DoctypeAlike (x y : Entries) : Prop where
  others : SameBut ["mapping"] x y
  codes : CodesAlike x y

/-- Two documents are the same but for shorthands. -/
structure DocumentAlike (x y : Entries) : Prop where
  others : SameBut ["catalogue", "doctypes"] x y
  catalogues : RowsAlike CatalogueAlike x y "catalogue"
  doctypes : BlockAlike (AlikeIn "type" DoctypeAlike) x y "doctypes"

namespace SameBut

variable {names : List String} {x y : Entries}

theorem refl (names : List String) (x : Entries) : SameBut names x x :=
  ⟨fun _ _ => rfl, rfl⟩

/-- Both mappings have the same entry in front. -/
theorem cons (e : Value × Value) (h : SameBut names x y) : SameBut names (e :: x) (e :: y) := by
  obtain ⟨k, v⟩ := e
  constructor
  · intro name hname
    have hfields := h.fields name hname
    simp only [get?, lookup?] at hfields ⊢
    rw [hfields]
  · have hforeign := h.foreign
    simp only [foreignKeys, List.filterMap_cons] at hforeign ⊢
    rw [hforeign]

/-- The first mapping has an entry in front under one of the names, and the second has it not. -/
theorem leftOut {name : String} (hname : name ∈ names) (v : Value) (h : SameBut names x y) :
    SameBut names ((.text name, v) :: x) y := by
  constructor
  · intro n hn
    rw [get?_cons, if_neg, h.fields n hn]
    rintro rfl
    exact hn hname
  · exact h.foreign

/-- Both mappings have an entry in front under one of the names. -/
theorem changed {name : String} (hname : name ∈ names) (v w : Value) (h : SameBut names x y) :
    SameBut names ((.text name, v) :: x) ((.text name, w) :: y) := by
  constructor
  · intro n hn
    rw [(h.leftOut hname v).fields n hn, get?_cons, if_neg]
    rintro rfl
    exact hn hname
  · exact h.foreign

end SameBut

/-- A list of one mapping and the mapping itself, or one that is related to it. -/
theorem RowsAlike.single {R : Entries → Entries → Prop} {x y a b : Entries} {name : String}
    (hx : get? x name = some (.list [.map a])) (hy : get? y name = some (.map b))
    (hab : a = b ∨ R a b) : RowsAlike R x y name := by
  refine Or.inr ⟨[.map a], [.map b], by rw [rowAt?, hx]; rfl, by rw [rowAt?, hy]; rfl, ?_⟩
  refine .cons ?_ .nil
  rcases hab with rfl | hab
  · exact Or.inl rfl
  · exact Or.inr ⟨a, b, rfl, rfl, hab⟩

/-- A list without items, null, and nothing at all. -/
theorem RowsAlike.nothing {R : Entries → Entries → Prop} {x y : Entries} {name : String}
    (hx : get? x name = some (.list []))
    (hy : get? y name = none ∨ get? y name = some .null) : RowsAlike R x y name := by
  refine Or.inr ⟨[], [], by rw [rowAt?, hx]; rfl, ?_, .nil⟩
  unfold rowAt?
  rcases hy with hy | hy <;> rw [hy]
  rfl

/-- A list of one text and the text itself. -/
theorem CodesAlike.single {x y : Entries} {s : String}
    (hx : get? x "mapping" = some (.list [.text s])) (hy : get? y "mapping" = some (.text s)) :
    CodesAlike x y :=
  Or.inr ⟨[.text s], by rw [codesAt?, hx], by rw [codesAt?, hy]⟩

/-! ## Checks that come to the same -/

/-- Two checks have the same findings, or related results. -/
inductive Checked.Alike {α β : Type} (R : α → β → Prop) : Checked α → Checked β → Prop where
  | ok {a : α} {b : β} (h : R a b) : Alike R (.ok a) (.ok b)
  | error (f : Finding) : Alike R (.error f) (.error f)

namespace Checked.Alike

variable {α β γ δ : Type} {R : α → β → Prop} {S : γ → δ → Prop}

theorem refl {R : α → α → Prop} (h : ∀ a, R a a) (c : Checked α) : Alike R c c := by
  cases c with
  | ok a => exact .ok (h a)
  | error f => exact .error f

theorem of_eq {R : α → α → Prop} (h : ∀ a, R a a) {c d : Checked α} (heq : c = d) : Alike R c d :=
  heq ▸ refl h c

theorem eq {c d : Checked α} (h : Alike Eq c d) : c = d := by
  cases h with
  | ok h => rw [h]
  | error f => rfl

/-- Lists whose items are the same are the same. -/
theorem eq_of_items {c d : Checked (List α)} (h : Alike (List.Forall₂ Eq) c d) : c = d := by
  rw [List.forall₂_eq_eq_eq] at h
  exact h.eq

theorem under {c : Checked α} {d : Checked β} (h : Alike R c d) (s : Step) :
    Alike R (Checked.under s c) (Checked.under s d) := by
  cases h with
  | ok h => exact .ok h
  | error f => exact .error _

theorem both {c : Checked α} {d : Checked β} {c' : Checked γ} {d' : Checked δ}
    (h : Alike R c d) (h' : Alike S c' d') :
    Alike (fun p q => R p.1 q.1 ∧ S p.2 q.2) (c.both c') (d.both d') := by
  cases h with
  | ok h =>
    cases h' with
    | ok h' => exact .ok ⟨h, h'⟩
    | error f => exact .error _
  | error f => cases h' <;> exact .error _

theorem andFaults {c : Checked α} {d : Checked β} (h : Alike R c d) (extra : List Fault) :
    Alike R (c.andFaults extra) (d.andFaults extra) := by
  cases h with
  | ok h =>
    cases extra with
    | nil => exact .ok h
    | cons => exact .error _
  | error f => exact .error _

theorem bind {c : Checked α} {d : Checked β} (h : Alike R c d) {f : α → Checked γ}
    {g : β → Checked δ} (hfg : ∀ a b, R a b → Alike S (f a) (g b)) :
    Alike S (c >>= f) (d >>= g) := by
  cases h with
  | ok h => exact hfg _ _ h
  | error f => exact .error f

theorem map {c : Checked α} {d : Checked β} (h : Alike R c d) {f : α → γ} {g : β → δ}
    (hfg : ∀ a b, R a b → S (f a) (g b)) : Alike S (c.map f) (d.map g) := by
  cases h with
  | ok h => exact .ok (hfg _ _ h)
  | error f => exact .error f

/-- **Rows of items that are checked alike are checked alike.** -/
theorem items {check : Value → Checked α} {check' : Value → Checked β} {vs ws : List Value}
    (h : List.Forall₂ (fun v w => Alike R (check v) (check' w)) vs ws) (n : Nat) :
    Alike (List.Forall₂ R) (items check n vs) (items check' n ws) := by
  induction h generalizing n with
  | nil => exact .ok .nil
  | cons hv _ ih => exact ((hv.under (.index n)).both (ih (n + 1))).map fun _ _ h => .cons h.1 h.2

end Checked.Alike

section Lists

variable {α : Type} {R : α → α → Prop} {Q : Entries → Entries → Prop} {x y : Entries}
  {name : String}

/-- A list under a name is checked alike in two shorthands. -/
theorem RowsAlike.alike (h : RowsAlike Q x y name) (check : Value → Checked α)
    (hR : ∀ a, R a a) (hQ : ∀ a b, Q a b → Checked.Alike R (check (.map a)) (check (.map b))) :
    Checked.Alike (List.Forall₂ R) (optional x name [] (entryList check))
      (optional y name [] (entryList check)) := by
  rcases h with hsame | ⟨vs, ws, hvs, hws, hrows⟩
  · exact .of_eq (fun as => List.forall₂_same.2 fun a _ => hR a) (optional_congr hsame _ _)
  · rw [optional_entryList, optional_entryList, hvs, hws]
    refine (Checked.Alike.items (hrows.imp ?_) 0).under _
    rintro v w (rfl | ⟨a, b, rfl, rfl, hab⟩)
    · exact .refl hR _
    · exact hQ a b hab

/-- A block under a name is checked alike in two shorthands, when what is checked of it are its
fields. -/
theorem BlockAlike.alike {d : α} {check : Value → Checked α} {body : Entries → Checked α}
    {problem : Problem} (h : BlockAlike Q x y name) (hR : ∀ a, R a a)
    (hcheck : ∀ entries, optional entries name d check =
      Checked.under (.field name) (match blockAt? entries name with
        | some block => body block
        | none => .fail problem))
    (hQ : ∀ b c, Q b c → Checked.Alike R (body b) (body c)) :
    Checked.Alike R (optional x name d check) (optional y name d check) := by
  rcases h with hsame | ⟨b, c, hb, hc, hbc⟩
  · exact .of_eq hR (optional_congr hsame _ _)
  · rw [hcheck, hcheck, hb, hc]
    exact (hQ b c hbc).under _

end Lists

theorem optional_codesAt {entries : Entries} {vs : List Value} (h : codesAt? entries = some vs) :
    optional entries "mapping" [] checkCodes =
      Checked.under (.field "mapping") (items numericText 0 vs) := by
  unfold codesAt? at h
  unfold optional
  split at h <;> cases h
  all_goals
    rename_i hget
    rw [hget]
    rfl

/-! ## Entries -/

theorem RuleAlike.check_eq {x y : Entries} (h : RuleAlike x y) :
    RuleEntry.check (.map x) = RuleEntry.check (.map y) := by
  have hconditions : optional x "condition" [] (entryList ConditionEntry.check) =
      optional y "condition" [] (entryList ConditionEntry.check) := by
    refine Checked.Alike.eq_of_items ?_
    exact h.rows.alike _ (fun _ => rfl) fun a b hab => .of_eq (fun _ => rfl) (hab ▸ rfl)
  simp only [RuleEntry.check, mapping, bind, Except.bind]
  rw [field_congr (h.others.fields "tag" (by decide)),
    optional_congr (h.others.fields "subtag" (by decide)),
    field_congr (h.others.fields "value" (by decide)),
    optional_congr (h.others.fields "mode" (by decide)), hconditions]

theorem optional_rules_congr {x y : Entries}
    (h : BlockAlike (AlikeIn "setvalue" RuleAlike) x y "beautify") :
    optional x "beautify" [] checkRules = optional y "beautify" [] checkRules := by
  refine Checked.Alike.eq (h.alike (fun _ => rfl) optional_checkRules fun b c hbc => ?_)
  refine .of_eq (fun _ => rfl) (Checked.Alike.eq_of_items ?_)
  exact hbc.rows.alike _ (fun _ => rfl) fun _ _ hrule => .of_eq (fun _ => rfl) hrule.check_eq

/-- **Catalogues that differ in shorthands only are checked alike**, faults included. -/
theorem CatalogueAlike.check_eq {x y : Entries} (h : CatalogueAlike x y) :
    CatalogueEntry.check (.map x) = CatalogueEntry.check (.map y) := by
  have hspecials : optional x "specialmapping" [] (entryList SpecialMappingEntry.check) =
      optional y "specialmapping" [] (entryList SpecialMappingEntry.check) := by
    refine Checked.Alike.eq_of_items ?_
    exact h.specialMappings.alike _ (fun _ => rfl) fun a b hab => .of_eq (fun _ => rfl) (hab ▸ rfl)
  simp only [CatalogueEntry.check, mapping, bind, Except.bind]
  rw [field_congr (h.others.fields "title" (by decide)),
    field_congr (h.others.fields "config" (by decide)), optional_rules_congr h.rules, hspecials]

theorem CodesAlike.optional_eq {x y : Entries} (h : CodesAlike x y) :
    optional x "mapping" [] checkCodes = optional y "mapping" [] checkCodes := by
  rcases h with hsame | ⟨vs, hx, hy⟩
  · exact optional_congr hsame _ _
  · rw [optional_codesAt hx, optional_codesAt hy]

theorem checkFlag_congr {x y : Entries} {name other : String} (h : get? x name = get? y name)
    (h' : get? x other = get? y other) : checkFlag x name other = checkFlag y name other := by
  unfold checkFlag
  rw [h, optional_congr h']

/-- **Document types that differ in shorthands only are checked alike**, faults included. -/
theorem DoctypeAlike.check_eq {x y : Entries} (h : DoctypeAlike x y) :
    DoctypeEntry.check (.map x) = DoctypeEntry.check (.map y) := by
  have hsame (name : String) (hname : name ∉ ["mapping"]) : get? x name = get? y name :=
    h.others.fields name hname
  simp only [DoctypeEntry.check, mapping, bind, Except.bind]
  rw [field_congr (hsame "title" (by decide)),
    checkFlag_congr (hsame "isPeriodical" (by decide)) (hsame "is_periodical" (by decide)),
    checkFlag_congr (hsame "isMultiVolume" (by decide)) (hsame "is_multi_volume" (by decide)),
    checkFlag_congr (hsame "isContainedWork" (by decide)) (hsame "is_contained_work" (by decide)),
    h.codes.optional_eq]

end LibraryCatalogue.Schema
