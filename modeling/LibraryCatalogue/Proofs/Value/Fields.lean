import LibraryCatalogue.Value.Freeze

/-!
# Fields of mappings

* `get?_append`, `get?_insert`, `lookup?_insert_of_ne` — what is read after writing;
* `lookup?_map`, `get?_map`, `get?_freezeEntries`, `get?_thawEntries` — what is read after all values
  changed;
* `keys_insert`, `keys_freezeEntries`, `keys_thawEntries` — the keys stay;
* `freeze_freeze` — what is frozen stays as it is when it is frozen again;
* `insert_of_get?`, `insert_append` — writing what is there already, and writing behind other entries;
* `fieldsOf`, `get?_fieldsOf_cons` — a mapping given by names with values, some of them left out;
* `ofEntries_fieldsOf` — nothing is folded together when the names are different;
* `Loose` — a value that comes back when it is frozen and thawed.
-/

namespace LibraryCatalogue.Value

/-! ## Reading and writing -/

theorem get?_cons (n : String) (v : Value) (rest : Entries) (name : String) :
    get? ((.text n, v) :: rest) name = if n = name then some v else get? rest name := by
  simp [get?, lookup?, sameKey]

theorem get?_append (a b : Entries) (name : String) :
    get? (a ++ b) name = (get? a name).or (get? b name) := by
  induction a with
  | nil => simp [get?, lookup?]
  | cons e a ih =>
    obtain ⟨k, v⟩ := e
    simp only [get?] at ih ⊢
    rw [List.cons_append, lookup?, lookup?]
    split
    · rfl
    · exact ih

/-- Only a text is the same key as a text. -/
theorem sameKey_text_iff {k : Value} {name : String} :
    sameKey k (.text name) = true ↔ k = .text name := by
  cases k <;> simp [sameKey, asInteger?]

theorem get?_insert (entries : Entries) (n : String) (v : Value) (name : String) :
    get? (insert (.text n) v entries) name = if n = name then some v else get? entries name := by
  induction entries with
  | nil => simp [insert, get?, lookup?, sameKey]
  | cons e rest ih =>
    obtain ⟨k, w⟩ := e
    rw [insert]
    split
    · rename_i hk
      obtain rfl := sameKey_text_iff.1 hk
      rw [get?_cons, get?_cons]
      split <;> rfl
    · rename_i hk
      simp only [get?] at ih ⊢
      rw [lookup?, lookup?, ih]
      split
      · rename_i hk'
        obtain rfl := sameKey_text_iff.1 hk'
        rw [if_neg]
        rintro rfl
        exact hk hk'
      · rfl

/-- Writing what is there already changes nothing. -/
theorem insert_of_get? {entries : Entries} {name : String} {v : Value}
    (h : get? entries name = some v) : insert (.text name) v entries = entries := by
  induction entries with
  | nil => cases h
  | cons e rest ih =>
    obtain ⟨k, w⟩ := e
    simp only [get?, lookup?] at h ih
    rw [insert]
    split at h
    · rename_i hk
      cases h
      rw [if_pos hk]
    · rename_i hk
      rw [if_neg hk, ih h]

/-- A new name is written behind the entries without it. -/
theorem insert_append {a : Entries} {name : String} (h : get? a name = none) (v : Value)
    (b : Entries) : insert (.text name) v (a ++ b) = a ++ insert (.text name) v b := by
  induction a with
  | nil => rfl
  | cons e a ih =>
    obtain ⟨k, w⟩ := e
    simp only [get?, lookup?] at h ih
    rw [List.cons_append, insert]
    split at h
    · cases h
    · rename_i hk
      rw [if_neg hk, ih h]
      rfl

theorem insert_of_absent {a : Entries} {name : String} (h : get? a name = none) (v : Value) :
    insert (.text name) v a = a ++ [(.text name, v)] := by
  have ha := insert_append h v []
  rw [List.append_nil] at ha
  exact ha

/-- Writing at a name changes nothing at other keys. -/
theorem lookup?_insert_of_ne {key : Value} {name : String} (h : key ≠ .text name) (v : Value)
    (entries : Entries) : lookup? key (insert (.text name) v entries) = lookup? key entries := by
  have hne : ¬ sameKey (.text name) key = true := by
    cases key with
    | text s =>
      rw [sameKey_text_iff]
      exact Ne.symm h
    | _ => simp [sameKey, asInteger?]
  induction entries with
  | nil => simp only [insert, lookup?, if_neg hne]
  | cons e rest ih =>
    obtain ⟨k, w⟩ := e
    rw [insert]
    split
    · rename_i hk
      obtain rfl := sameKey_text_iff.1 hk
      rw [lookup?, lookup?, if_neg hne, if_neg hne]
    · rw [lookup?, lookup?, ih]

/-- Writing at a name that is there keeps all keys in their places. -/
theorem keys_insert {entries : Entries} {name : String} {w : Value}
    (h : get? entries name = some w) (v : Value) :
    (insert (.text name) v entries).map (·.1) = entries.map (·.1) := by
  induction entries with
  | nil => cases h
  | cons e rest ih =>
    obtain ⟨k, u⟩ := e
    simp only [get?, lookup?] at h ih
    rw [insert]
    split at h
    · rename_i hk
      rw [if_pos hk, List.map_cons, List.map_cons]
    · rename_i hk
      rw [if_neg hk, List.map_cons, List.map_cons, ih h]

/-- What is read after a change of all values is the changed value. -/
theorem lookup?_map (f : Value → Value) (entries : Entries) (key : Value) :
    lookup? key (entries.map fun (k, v) => (k, f v)) = (lookup? key entries).map f := by
  induction entries with
  | nil => rfl
  | cons e rest ih =>
    obtain ⟨k, v⟩ := e
    rw [List.map_cons, lookup?, lookup?]
    split
    · rfl
    · exact ih

theorem get?_map (f : Value → Value) (entries : Entries) (name : String) :
    get? (entries.map fun (k, v) => (k, f v)) name = (get? entries name).map f :=
  lookup?_map f entries (.text name)

theorem lookup?_freezeEntries (entries : Entries) (key : Value) :
    lookup? key (freezeEntries entries) = (lookup? key entries).map freeze := by
  rw [freezeEntries_eq_map, lookup?_map]

theorem keys_freezeEntries (entries : Entries) :
    (freezeEntries entries).map (·.1) = entries.map (·.1) := by
  rw [freezeEntries_eq_map, List.map_map]
  rfl

theorem keys_thawEntries (entries : Entries) :
    (thawEntries entries).map (·.1) = entries.map (·.1) := by
  rw [thawEntries_eq_map, List.map_map]
  rfl

theorem get?_freezeEntries (entries : Entries) (name : String) :
    get? (freezeEntries entries) name = (get? entries name).map freeze := by
  rw [freezeEntries_eq_map, get?_map]

theorem get?_thawEntries (entries : Entries) (name : String) :
    get? (thawEntries entries) name = (get? entries name).map thaw := by
  rw [thawEntries_eq_map, get?_map]

/-! ## Freezing again -/

mutual

theorem freeze_freeze : ∀ v : Value, freeze (freeze v) = freeze v
  | .list items => by rw [freeze, freeze, freezeItems_freezeItems items]
  | .tuple items => by rw [freeze, freeze, freezeItems_freezeItems items]
  | .map entries => by rw [freeze, freeze, freezeEntries_freezeEntries entries]
  | .null | .bool _ | .int _ | .float _ | .text _ | .bytes _ | .date _ | .moment _ | .set _ => rfl

theorem freezeItems_freezeItems : ∀ items : List Value,
    freezeItems (freezeItems items) = freezeItems items
  | [] => rfl
  | v :: rest => by
    rw [freezeItems, freezeItems, freeze_freeze v, freezeItems_freezeItems rest]

theorem freezeEntries_freezeEntries : ∀ entries : Entries,
    freezeEntries (freezeEntries entries) = freezeEntries entries
  | [] => rfl
  | (k, v) :: rest => by
    rw [freezeEntries, freezeEntries, freeze_freeze v, freezeEntries_freezeEntries rest]

end

/-! ## Mappings by names -/

/-- The entries that names with values make; a name without a value is left out. -/
def fieldsOf : List (String × Option Value) → Entries
  | [] => []
  | (_, none) :: rest => fieldsOf rest
  | (n, some v) :: rest => (.text n, v) :: fieldsOf rest

@[simp]
theorem get?_fieldsOf_nil (name : String) : get? (fieldsOf []) name = none := rfl

@[simp]
theorem get?_fieldsOf_cons (n : String) (v? : Option Value) (rest : List (String × Option Value))
    (name : String) :
    get? (fieldsOf ((n, v?) :: rest)) name =
      if n = name then v?.or (get? (fieldsOf rest) name) else get? (fieldsOf rest) name := by
  cases v? with
  | none => simp [fieldsOf]
  | some v =>
    rw [fieldsOf, get?_cons]
    rfl

theorem fieldsOf_append (a b : List (String × Option Value)) :
    fieldsOf (a ++ b) = fieldsOf a ++ fieldsOf b := by
  induction a with
  | nil => rfl
  | cons slot a ih =>
    obtain ⟨n, v?⟩ := slot
    cases v? with
    | none => exact ih
    | some v => simp only [List.cons_append, fieldsOf, ih]

theorem mem_fieldsOf {slots : List (String × Option Value)} {e : Value × Value}
    (he : e ∈ fieldsOf slots) : ∃ n v, (n, some v) ∈ slots ∧ e = (.text n, v) := by
  induction slots with
  | nil => cases he
  | cons slot rest ih =>
    obtain ⟨n, v?⟩ := slot
    have hrest : e ∈ fieldsOf rest → ∃ m v, (m, some v) ∈ (n, v?) :: rest ∧ e = (.text m, v) := by
      intro h
      obtain ⟨m, v, hm, rfl⟩ := ih h
      exact ⟨m, v, List.mem_cons_of_mem _ hm, rfl⟩
    cases v? with
    | none => exact hrest he
    | some v =>
      rcases List.mem_cons.1 he with rfl | he
      · exact ⟨n, v, List.mem_cons_self, rfl⟩
      · exact hrest he

theorem get?_fieldsOf_eq_none {slots : List (String × Option Value)} {name : String}
    (h : name ∉ slots.map (·.1)) : get? (fieldsOf slots) name = none := by
  induction slots with
  | nil => rfl
  | cons slot rest ih =>
    obtain ⟨n, v?⟩ := slot
    rw [List.map_cons, List.mem_cons, not_or] at h
    rw [get?_fieldsOf_cons, if_neg (Ne.symm h.1), ih h.2]

/-- **Nothing is folded together when the names are different.** -/
theorem ofEntries_fieldsOf {slots : List (String × Option Value)}
    (h : (slots.map (·.1)).Nodup) : ofEntries (fieldsOf slots) = fieldsOf slots := by
  -- What is written already has none of the names that are still to come.
  have hwrite : ∀ before : List (String × Option Value),
      ((before ++ slots).map (·.1)).Nodup →
      (fieldsOf slots).foldl (fun acc e => insert e.1 e.2 acc) (fieldsOf before) =
        fieldsOf (before ++ slots) := by
    clear h
    induction slots with
    | nil =>
      intro before _
      rw [List.append_nil]
      rfl
    | cons slot rest ih =>
      intro before hd
      obtain ⟨n, v?⟩ := slot
      have hnext := ih (before ++ [(n, v?)]) (by rwa [List.append_assoc, List.singleton_append])
      rw [List.append_assoc, List.singleton_append] at hnext
      rw [← hnext, fieldsOf_append]
      cases v? with
      | none => simp [fieldsOf]
      | some v =>
        have habsent : get? (fieldsOf before) n = none := by
          apply get?_fieldsOf_eq_none
          intro hn
          rw [List.map_append, List.nodup_append] at hd
          exact hd.2.2 n hn n (by simp) rfl
        rw [fieldsOf, List.foldl_cons]
        show List.foldl _ (insert (.text n) v (fieldsOf before)) _ = _
        rw [insert_of_absent habsent]
        rfl
  exact hwrite [] h

/-! ## Frozen and thawed -/

/-- A value that comes back when it is frozen and thawed: no tuple is in it outside sets. -/
def Loose (v : Value) : Prop :=
  v.freeze.thaw = v

theorem loose_text (s : String) : Loose (.text s) := rfl

theorem loose_int (i : Int) : Loose (.int i) := rfl

theorem loose_bool (b : Bool) : Loose (.bool b) := rfl

theorem loose_list {items : List Value} (h : ∀ v ∈ items, Loose v) : Loose (.list items) := by
  unfold Loose
  rw [freeze, thaw, freezeItems_eq_map, thawItems_eq_map, List.map_map]
  congr 1
  exact (List.map_congr_left h).trans (List.map_id items)

theorem loose_map {entries : Entries} (h : ∀ e ∈ entries, Loose e.2) : Loose (.map entries) := by
  unfold Loose
  have heach : ∀ e ∈ entries, (e.1, e.2.freeze.thaw) = e := fun e he => Prod.ext rfl (h e he)
  rw [freeze, thaw, freezeEntries_eq_map, thawEntries_eq_map, List.map_map]
  congr 1
  exact (List.map_congr_left heach).trans (List.map_id entries)

/-- A slot without a value, or with a loose one. -/
def LooseSlot (v? : Option Value) : Prop :=
  ∀ v ∈ v?, Loose v

theorem looseSlot_some {v : Value} (h : Loose v) : LooseSlot (some v) := by
  rintro _ ⟨⟩
  exact h

theorem looseSlot_text (s? : Option String) : LooseSlot (s?.map .text) := by
  cases s? with
  | none => exact fun v hv => by cases hv
  | some s => exact looseSlot_some (loose_text s)

theorem loose_fieldsOf {slots : List (String × Option Value)}
    (h : ∀ slot ∈ slots, LooseSlot slot.2) : Loose (.map (fieldsOf slots)) := by
  apply loose_map
  intro e he
  obtain ⟨n, v, hn, rfl⟩ := mem_fieldsOf he
  exact h (n, some v) hn v rfl

/-- A mapping that is loose comes back when its entries are frozen. -/
theorem thaw_freezeEntries {entries : Entries} (h : Loose (.map entries)) :
    (Value.map (freezeEntries entries)).thaw = .map entries := by
  unfold Loose at h
  rw [freeze] at h
  exact h

end LibraryCatalogue.Value
