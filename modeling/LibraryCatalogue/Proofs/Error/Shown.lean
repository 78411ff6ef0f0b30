import LibraryCatalogue.Error.Basic
import Mathlib.Tactic.SplitIfs

/-!
# What the context of an error shows

Writing names into the context of an error is to be like writing into a mapping, whichever of them are
details and whichever are further entries: what was written last under a name is shown.  It is, but for
the names of the workings of a context: those in `Context.fixedNames` are refused, those in
`Context.innerNames` are written where nobody looks, and `Context.showingName` is the end of all showing.

* `lookup_entries` — what is shown under a name: the further entry, or else the detail;
* `write_cases` — all that one write can do;
* `Context.shownAfter` — what a row of writes should leave, told by the last of them;
* `write_told`, `withContext_told` — what one write, and a row of them, does leave;
* `last_writes_shown` — so it is for every row of calls;
* `overwritten_showing` — a context that cannot be shown any more, and one that lost what was written.

What comes of a mapping that is written under `__dict__` is not described.
-/

namespace LibraryCatalogue

namespace Context

/-! ## Names -/

/-- The names of the details. -/
def detailNames : List String := ["catalogue", "doctype", "source_path", "field_path"]

/-- The name under which a context shows itself. -/
def showingName : String := "to_dict"

/-- The names of workings that cannot be written. -/
def fixedNames : List String := ["__class__", "__dict__", "self", "__weakref__"]

/-- All names of workings of a context. -/
def workingNames : List String := showingName :: fixedNames ++ innerNames

theorem mem_workingNames {name : String} :
    name ∈ workingNames ↔ name = showingName ∨ name ∈ fixedNames ∨ name ∈ innerNames := by
  simp only [workingNames, List.cons_append, List.mem_cons, List.mem_append]

/-- No detail has the name of a working. -/
theorem not_mem_workingNames_of_detail : ∀ name ∈ detailNames, name ∉ workingNames := by
  decide

/-! ## Entries -/

/-- A value, unless it stands for an absent detail. -/
def present? : Value → Option Value
  | .null => none
  | v => some v

theorem lookup_cons (n : String) (v : Value) (rest : List (String × Value)) (name : String) :
    ((n, v) :: rest).lookup name = if name = n then some v else rest.lookup name := by
  by_cases h : name = n
  · rw [if_pos h, h, List.lookup_cons_self]
  · rw [if_neg h, List.lookup_cons, beq_false_of_ne h]

theorem lookup_detail (n : String) (v : Value) (name : String) :
    (detail n v).lookup name = if name = n then present? v else none := by
  cases v <;> simp [detail, present?, lookup_cons]

theorem lookup_insertEntry (n : String) (v : Value) (es : List (String × Value)) (name : String) :
    (insertEntry n v es).lookup name = if name = n then some v else es.lookup name := by
  induction es with
  | nil => rw [insertEntry, lookup_cons]
  | cons e rest ih =>
    obtain ⟨m, w⟩ := e
    rw [insertEntry, lookup_cons]
    by_cases hm : m = n
    · rw [if_pos (beq_iff_eq.2 hm), lookup_cons, hm]
      split <;> rfl
    · rw [if_neg (mt beq_iff_eq.1 hm), lookup_cons, ih]
      by_cases hname : name = m
      · rw [if_pos hname, if_pos hname, if_neg (hname ▸ hm)]
      · rw [if_neg hname, if_neg hname]

theorem lookup_eq_none_of_not_mem {es : List (String × Value)} {name : String}
    (h : name ∉ es.map (·.1)) : es.lookup name = none :=
  List.lookup_eq_none_iff.2 fun p hp => bne_iff_ne.2 fun hname =>
    h (List.mem_map.2 ⟨p, hp, hname.symm⟩)

theorem names_insertEntry (n : String) (v : Value) (es : List (String × Value)) :
    (insertEntry n v es).map (·.1) =
      if n ∈ es.map (·.1) then es.map (·.1) else es.map (·.1) ++ [n] := by
  induction es with
  | nil => simp [insertEntry]
  | cons e rest ih =>
    obtain ⟨m, w⟩ := e
    rw [insertEntry]
    by_cases hm : m = n
    · simp [hm]
    · rw [if_neg (mt beq_iff_eq.1 hm), List.map_cons, ih]
      simp only [List.map_cons, List.mem_cons, Ne.symm hm, false_or]
      split <;> rfl

theorem mem_names_insertEntry {n name : String} {v : Value} {es : List (String × Value)} :
    name ∈ (insertEntry n v es).map (·.1) ↔ name = n ∨ name ∈ es.map (·.1) := by
  rw [names_insertEntry]
  split
  · rename_i hn
    exact ⟨.inr, fun h => h.elim (fun hname => hname ▸ hn) id⟩
  · rw [List.mem_append, List.mem_singleton, or_comm]

theorem nodup_insertEntry {n : String} {v : Value} {es : List (String × Value)}
    (h : (es.map (·.1)).Nodup) : ((insertEntry n v es).map (·.1)).Nodup := by
  rw [names_insertEntry]
  split
  · exact h
  · rename_i hn
    exact List.nodup_append.2 ⟨h, by simp, fun a ha b hb hab =>
      hn (List.mem_singleton.1 hb ▸ hab ▸ ha)⟩

/-- Entries with different names that are written over others. -/
theorem lookup_foldl_insertEntry {es : List (String × Value)} (h : (es.map (·.1)).Nodup)
    (acc : List (String × Value)) (name : String) :
    (es.foldl (fun acc (n, v) => insertEntry n v acc) acc).lookup name =
      (es.lookup name).or (acc.lookup name) := by
  induction es generalizing acc with
  | nil => rfl
  | cons e rest ih =>
    obtain ⟨n, v⟩ := e
    obtain ⟨hn, hrest⟩ := List.nodup_cons.1 h
    rw [List.foldl_cons, ih hrest, lookup_insertEntry, lookup_cons]
    by_cases hname : name = n
    · -- The name does not come again, so nothing behind it writes over it.
      rw [if_pos hname, if_pos hname, lookup_eq_none_of_not_mem (hname ▸ hn)]
      rfl
    · rw [if_neg hname, if_neg hname]

/-! ## What is shown -/

/-- The detail of a name, when it is present. -/
def detailAt (c : Context) (name : String) : Option Value :=
  if name = "catalogue" then present? c.catalogue
  else if name = "doctype" then present? c.doctype
  else if name = "source_path" then present? c.sourcePath
  else if name = "field_path" then present? c.fieldPath
  else none

/-- The further entries of a context are those of a mapping, apart from the details. -/
structure Orderly (c : Context) : Prop where
  distinct : (c.further.map (·.1)).Nodup
  apart : ∀ name ∈ c.further.map (·.1), name ∉ detailNames

variable {c : Context}

theorem lookup_entries (h : c.Orderly) (name : String) :
    c.entries.lookup name = (c.further.lookup name).or (c.detailAt name) := by
  rw [entries, lookup_foldl_insertEntry h.distinct]
  simp only [List.lookup_append, lookup_detail, detailAt]
  congr 1
  split_ifs <;> simp_all

theorem names_detail_sublist (n : String) (v : Value) :
    ((detail n v).map (·.1)).Sublist [n] := by
  cases v <;> simp [detail]

theorem nodup_foldl_insertEntry (es : List (String × Value)) {acc : List (String × Value)}
    (h : (acc.map (·.1)).Nodup) :
    ((es.foldl (fun acc (n, v) => insertEntry n v acc) acc).map (·.1)).Nodup := by
  induction es generalizing acc with
  | nil => exact h
  | cons e rest ih => exact ih (nodup_insertEntry h)

/-- A context shows every name once. -/
theorem nodup_entries (c : Context) : (c.entries.map (·.1)).Nodup := by
  refine nodup_foldl_insertEntry c.further ?_
  simp only [List.map_append]
  have hsub := (((names_detail_sublist "catalogue" c.catalogue).append
    (names_detail_sublist "doctype" c.doctype)).append
    (names_detail_sublist "source_path" c.sourcePath)).append
    (names_detail_sublist "field_path" c.fieldPath)
  exact hsub.nodup (by decide)

/-! ## One write -/

theorem slot_of_fixed : ∀ name ∈ fixedNames, slot name = .fixedType ∨ slot name = .fixedAttribute := by
  decide

theorem write_of_fixed {name : String} (h : name ∈ fixedNames) (c : Context) (v : Value) :
    ∃ r, c.write name v = .error r := by
  rcases slot_of_fixed name h with hslot | hslot
  · exact ⟨.wrongType, by rw [write, hslot]⟩
  · exact ⟨.readOnly, by rw [write, hslot]⟩

theorem slot_of_inner : ∀ name ∈ innerNames, slot name = .inner := by
  decide

theorem slot_of_other {name : String} (hdetail : name ∉ detailNames) (hworking : name ∉ workingNames) :
    slot name = .further := by
  simp only [detailNames, List.mem_cons, List.not_mem_nil, or_false, not_or] at hdetail
  simp only [mem_workingNames, showingName, fixedNames, List.mem_cons, List.not_mem_nil, or_false,
    not_or] at hworking
  simp [slot, hdetail, hworking]

/-- **All that one write can do.** -/
theorem write_cases (c : Context) (n : String) (v : Value) :
    (n ∈ fixedNames ∧ ∃ r, c.write n v = .error r) ∨
      (n = showingName ∧ c.write n v = .ok { c with shows := false }) ∨
      (n ∈ innerNames ∧ c.write n v = .ok c) ∨
      (n ∈ detailNames ∧ ∃ c', c.write n v = .ok c' ∧ c'.further = c.further ∧ c'.shows = c.shows ∧
        ∀ name, c'.detailAt name = if name = n then present? v else c.detailAt name) ∨
      (n ∉ detailNames ∧ n ∉ workingNames ∧
        c.write n v = .ok { c with further := insertEntry n v c.further }) := by
  by_cases hdetail : n ∈ detailNames
  · refine .inr (.inr (.inr (.inl ⟨hdetail, ?_⟩)))
    simp only [detailNames, List.mem_cons, List.not_mem_nil, or_false] at hdetail
    rcases hdetail with rfl | rfl | rfl | rfl
    all_goals
      refine ⟨_, rfl, rfl, rfl, fun name => ?_⟩
      simp only [detailAt]
      split_ifs <;> simp_all
  · by_cases hworking : n ∈ workingNames
    · rcases mem_workingNames.1 hworking with rfl | hfixed | hinner
      · exact .inr (.inl ⟨rfl, rfl⟩)
      · exact .inl ⟨hfixed, write_of_fixed hfixed c v⟩
      · exact .inr (.inr (.inl ⟨hinner, by rw [write, slot_of_inner n hinner]⟩))
    · exact .inr (.inr (.inr (.inr
        ⟨hdetail, hworking, by rw [write, slot_of_other hdetail hworking]⟩)))

/-! ## What should be shown -/

/-- The writes that are not to a name of the workings. -/
def landing (writes : List (String × Value)) : List (String × Value) :=
  writes.filter fun w => decide (w.1 ∉ workingNames)

theorem landing_of_working {n : String} (h : n ∈ workingNames) (v : Value)
    (writes : List (String × Value)) : landing ((n, v) :: writes) = landing writes := by
  simp [landing, h]

theorem landing_of_other {n : String} (h : n ∉ workingNames) (v : Value)
    (writes : List (String × Value)) : landing ((n, v) :: writes) = (n, v) :: landing writes := by
  simp [landing, h]

theorem landing_eq_self {writes : List (String × Value)} (h : ∀ w ∈ writes, w.1 ∉ workingNames) :
    landing writes = writes :=
  List.filter_eq_self.2 fun w hw => decide_eq_true (h w hw)

/-- What is shown under a name for the value last written: null takes a detail away. -/
def told (name : String) (v : Value) : Option Value :=
  if name ∈ detailNames then present? v else some v

/-- What a context shows under a name when it takes a row of writes as a mapping does: the value last
written, or what was shown before where nothing was written. -/
def shownAfter (c : Context) (writes : List (String × Value)) (name : String) : Option Value :=
  (writes.reverse.lookup name).elim (c.entries.lookup name) (told name)

theorem shownAfter_cons (c : Context) (n : String) (v : Value) (writes : List (String × Value))
    (name : String) :
    c.shownAfter ((n, v) :: writes) name = (writes.reverse.lookup name).elim
      (if name = n then told name v else c.entries.lookup name) (told name) := by
  rw [shownAfter, List.reverse_cons, List.lookup_append, lookup_cons]
  cases writes.reverse.lookup name with
  | some w => rfl
  | none =>
    split <;> rfl

/-- What a context shows is a mapping, with these values. -/
def ShowsAs (c : Context) (value? : String → Option Value) : Prop :=
  ∃ shown, c.entries? = some shown ∧ (shown.map (·.1)).Nodup ∧
    ∀ name, shown.lookup name = value? name

/-! ## What is shown after writing -/

/-- **One write is taken as a mapping takes it**, when it is not to a name of the workings. -/
theorem write_told (h : c.Orderly) {n : String} (hn : n ∉ fixedNames) (v : Value) :
    ∃ c', c.write n v = .ok c' ∧ c'.Orderly ∧ (c'.shows = true ↔ c.shows = true ∧ n ≠ showingName) ∧
      ∀ name, c'.entries.lookup name =
        if n ∈ workingNames then c.entries.lookup name
        else if name = n then told name v else c.entries.lookup name := by
  rcases c.write_cases n v with ⟨hfixed, _⟩ | ⟨rfl, hwrite⟩ | ⟨hinner, hwrite⟩ |
    ⟨hdetail, c', hwrite, hfurther, hshows, hat⟩ | ⟨hdetail, hworking, hwrite⟩
  · exact absurd hfixed hn
  · exact ⟨_, hwrite, ⟨h.distinct, h.apart⟩, by simp, fun name => by
      rw [if_pos (mem_workingNames.2 (.inl rfl))]
      rfl⟩
  · refine ⟨_, hwrite, h, ?_, fun name => ?_⟩
    · have hne : n ≠ showingName := by
        rintro rfl
        revert hinner
        decide
      simp [hne]
    · rw [if_pos (mem_workingNames.2 (.inr (.inr hinner)))]
  · have hworking := not_mem_workingNames_of_detail n hdetail
    have h' : c'.Orderly := ⟨hfurther ▸ h.distinct, hfurther ▸ h.apart⟩
    refine ⟨c', hwrite, h', ?_, fun name => ?_⟩
    · rw [hshows]
      exact (and_iff_left fun hs => hworking (mem_workingNames.2 (.inl hs))).symm
    · rw [if_neg hworking, lookup_entries h', lookup_entries h, hfurther, hat]
      split
      · rename_i hname
        -- A further entry of this name would be shown in place of the detail.
        have habsent : c.further.lookup name = none :=
          lookup_eq_none_of_not_mem fun hmem => h.apart name hmem (hname ▸ hdetail)
        rw [habsent, told, if_pos (hname ▸ hdetail)]
        rfl
      · rfl
  · have h' : Orderly { c with further := insertEntry n v c.further } := by
      refine ⟨nodup_insertEntry h.distinct, fun name hname => ?_⟩
      rcases mem_names_insertEntry.1 hname with rfl | hname
      · exact hdetail
      · exact h.apart name hname
    refine ⟨_, hwrite, h', ?_, fun name => ?_⟩
    · exact (and_iff_left fun hs => hworking (mem_workingNames.2 (.inl hs))).symm
    · rw [if_neg hworking, lookup_entries h', lookup_entries h, lookup_insertEntry]
      split
      · rename_i hname
        rw [told, if_neg (hname ▸ hdetail)]
        rfl
      · rfl

end Context

namespace Error

variable {e : Error}

theorem withContext_append (writes more : List (String × Value)) :
    e.withContext (writes ++ more) = (e.withContext writes).bind (·.withContext more) := by
  induction writes generalizing e with
  | nil => rfl
  | cons w writes ih =>
    obtain ⟨n, v⟩ := w
    simp only [List.cons_append, withContext]
    cases e.context.write n v with
    | error r => rfl
    | ok c => exact ih

/-- A row of calls is one call with all their writes. -/
theorem foldlM_withContext (calls : List (List (String × Value))) :
    calls.foldlM withContext e = e.withContext calls.flatten := by
  induction calls generalizing e with
  | nil => rfl
  | cons writes calls ih =>
    rw [List.foldlM_cons, List.flatten_cons, withContext_append]
    cases e.withContext writes with
    | error r => rfl
    | ok e' => exact ih

/-- **A row of writes is taken as a mapping takes those of them that are not to names of the
workings.** -/
theorem withContext_told {writes : List (String × Value)} (h : e.context.Orderly)
    (hfixed : ∀ w ∈ writes, w.1 ∉ Context.fixedNames) :
    ∃ c, e.withContext writes = .ok { e with context := c } ∧ c.Orderly ∧
      (c.shows = true ↔ e.context.shows = true ∧ ∀ w ∈ writes, w.1 ≠ Context.showingName) ∧
      ∀ name, c.entries.lookup name = e.context.shownAfter (Context.landing writes) name := by
  induction writes generalizing e with
  | nil => exact ⟨e.context, rfl, h, by simp, fun _ => rfl⟩
  | cons w writes ih =>
    obtain ⟨n, v⟩ := w
    obtain ⟨hn, hrest⟩ := List.forall_mem_cons.1 hfixed
    obtain ⟨c₁, hwrite, h₁, hshows₁, htold₁⟩ := Context.write_told h hn v
    obtain ⟨c, hwrites, hc, hshows, htold⟩ := @ih { e with context := c₁ } h₁ hrest
    refine ⟨c, ?_, hc, ?_, fun name => ?_⟩
    · rw [withContext, hwrite]
      exact hwrites
    · rw [hshows, hshows₁, List.forall_mem_cons, and_assoc]
    · rw [htold, Context.shownAfter, htold₁]
      by_cases hworking : n ∈ Context.workingNames
      · rw [if_pos hworking, Context.landing_of_working hworking]
        rfl
      · rw [if_neg hworking, Context.landing_of_other hworking, Context.shownAfter_cons]

/-- A row of writes with one to a fixed name is refused. -/
theorem withContext_refused {writes : List (String × Value)}
    (hfixed : ∃ w ∈ writes, w.1 ∈ Context.fixedNames) : ∃ r, e.withContext writes = .error r := by
  induction writes generalizing e with
  | nil => simp at hfixed
  | cons w writes ih =>
    obtain ⟨n, v⟩ := w
    rw [withContext]
    cases hwrite : e.context.write n v with
    | error r => exact ⟨r, rfl⟩
    | ok c =>
      obtain ⟨w, hmem, hw⟩ := hfixed
      rcases List.mem_cons.1 hmem with rfl | hmem
      · obtain ⟨r, hr⟩ := Context.write_of_fixed hw e.context v
        rw [hr] at hwrite
        cases hwrite
      · exact ih ⟨w, hmem, hw⟩

/-- An error can be logged exactly when its context can be shown. -/
theorem record?_isSome_iff : e.record?.isSome = true ↔ e.context.shows = true := by
  rw [record?, Context.entries?]
  cases e.context.shows <;> simp

theorem withContext_shown {writes : List (String × Value)} (ho : e.context.Orderly)
    (hs : e.context.shows = true) (hfixed : ∀ w ∈ writes, w.1 ∉ Context.fixedNames)
    (hshowing : ∀ w ∈ writes, w.1 ≠ Context.showingName) :
    ∃ c, e.withContext writes = .ok { e with context := c } ∧
      c.ShowsAs (e.context.shownAfter (Context.landing writes)) ∧
      ({ e with context := c } : Error).record?.isSome = true := by
  obtain ⟨c, hwrites, _, hshows, htold⟩ := withContext_told ho hfixed
  have hc : c.shows = true := hshows.2 ⟨hs, hshowing⟩
  exact ⟨c, hwrites, ⟨c.entries, if_pos hc, c.nodup_entries, htold⟩, record?_isSome_iff.2 hc⟩

theorem withContext_hidden {writes : List (String × Value)} (ho : e.context.Orderly)
    (hfixed : ∀ w ∈ writes, w.1 ∉ Context.fixedNames)
    (hshowing : ∃ w ∈ writes, w.1 = Context.showingName) :
    ∃ c, e.withContext writes = .ok { e with context := c } ∧ c.entries? = none ∧
      ({ e with context := c } : Error).record? = none := by
  obtain ⟨c, hwrites, _, hshows, _⟩ := withContext_told ho hfixed
  have hc : ¬ c.shows = true := fun h => by
    obtain ⟨w, hw, hname⟩ := hshowing
    exact (hshows.1 h).2 w hw hname
  exact ⟨c, hwrites, if_neg hc, Option.not_isSome_iff_eq_none.1 (mt record?_isSome_iff.1 hc)⟩

/-- **The last writes are shown.**  Whatever calls write into the context of an error: when none of
the names is one of the workings of a context, the context and the error can be shown afterwards, and
the context shows under every name what was written last, or what it showed before.

Names of workings break this.  Writes to the inner names are lost; after one write to `to_dict` neither
the context nor the error can be shown any more; and the calls fail at a fixed name. -/
theorem last_writes_shown (e : Error) (ho : e.context.Orderly) (hs : e.context.shows = true)
    (calls : List (List (String × Value))) :
    ((∀ w ∈ calls.flatten, w.1 ∉ Context.workingNames) →
      ∃ c, calls.foldlM withContext e = .ok { e with context := c } ∧
        c.ShowsAs (e.context.shownAfter calls.flatten) ∧
        ({ e with context := c } : Error).record?.isSome = true) ∧
    ((∀ w ∈ calls.flatten, w.1 ∉ Context.fixedNames) →
      (∀ w ∈ calls.flatten, w.1 ≠ Context.showingName) →
      ∃ c, calls.foldlM withContext e = .ok { e with context := c } ∧
        c.ShowsAs (e.context.shownAfter (Context.landing calls.flatten)) ∧
        ({ e with context := c } : Error).record?.isSome = true) ∧
    ((∀ w ∈ calls.flatten, w.1 ∉ Context.fixedNames) →
      (∃ w ∈ calls.flatten, w.1 = Context.showingName) →
      ∃ c, calls.foldlM withContext e = .ok { e with context := c } ∧ c.entries? = none ∧
        ({ e with context := c } : Error).record? = none) ∧
    ((∃ w ∈ calls.flatten, w.1 ∈ Context.fixedNames ∧ ∀ entries, w.2 ≠ .map entries) →
      ∃ r, calls.foldlM withContext e = .error r) := by
  rw [foldlM_withContext]
  refine ⟨fun hworking => ?_, withContext_shown ho hs, withContext_hidden ho,
    fun ⟨w, hw, hfixed, _⟩ => withContext_refused ⟨w, hw, hfixed⟩⟩
  have hfixed : ∀ w ∈ calls.flatten, w.1 ∉ Context.fixedNames := fun w hw h =>
    hworking w hw (Context.mem_workingNames.2 (.inr (.inl h)))
  have hshowing : ∀ w ∈ calls.flatten, w.1 ≠ Context.showingName := fun w hw h =>
    hworking w hw (Context.mem_workingNames.2 (.inl h))
  have hshown := withContext_shown ho hs hfixed hshowing
  rwa [Context.landing_eq_self hworking] at hshown

/-- An error about a catalogue, with a hint. -/
def hinted : Error :=
  { ofReason (.parse "bad port") none with
    context := { Context.empty with
      catalogue := .text "GBV", further := [("hint", .text "see the manual")] } }

/-- Two calls of which the second writes over the first, and over a detail. -/
def secondThoughts : List (List (String × Value)) :=
  [[("doctype", .text "Novel"), ("metadata", .int 1)],
    [("metadata", .int 2), ("catalogue", .null), ("code", .text "Aa")]]

theorem last_writes_shown_secondThoughts :
    hinted.context.Orderly ∧ hinted.context.shows = true ∧
      ∃ c, secondThoughts.foldlM withContext hinted = .ok { hinted with context := c } ∧
        c.ShowsAs (hinted.context.shownAfter secondThoughts.flatten) ∧
        ({ hinted with context := c } : Error).record?.isSome = true :=
  have ho : hinted.context.Orderly := ⟨by decide, by decide⟩
  ⟨ho, rfl, (last_writes_shown hinted ho rfl secondThoughts).1 (by decide)⟩

example : (secondThoughts.foldlM withContext hinted).toOption.bind (·.context.entries?) =
    some [("doctype", .text "Novel"), ("hint", .text "see the manual"), ("metadata", .int 2),
      ("code", .text "Aa")] := rfl

/-- **Some names are not entries.**  An error that took `to_dict` cannot be shown any more, and one that
took `__doc__` does not show it. -/
theorem overwritten_showing :
    (∃ e, [[("to_dict", Value.int 1)]].foldlM withContext (ofReason (.general "m") none) = .ok e ∧
      e.context.entries? = none ∧ e.record? = none) ∧
    ∃ e, [[("__doc__", Value.text "x")]].foldlM withContext (ofReason (.general "m") none) = .ok e ∧
      e.context.entries? = some [] :=
  ⟨⟨_, rfl, rfl, rfl⟩, _, rfl, rfl⟩

end Error

end LibraryCatalogue
