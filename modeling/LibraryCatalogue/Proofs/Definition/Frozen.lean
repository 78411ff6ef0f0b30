import LibraryCatalogue.Proofs.Definition.Titles
import LibraryCatalogue.Proofs.Schema.Packing
import LibraryCatalogue.Proofs.Value.Unpacked

/-!
# Frozen entries

An entry is kept frozen, and thawed when a schema looks at it.  The schemas of entries do not tell
lists from tuples, so they find what they would have found in the entry as it is written.

* `Entry.check_ofRaw` — what a check finds in an entry that was kept;
* `Entry.CheckedAs`, `Contents.checkedAs_of_ofDocument` — a check finds the same in every entry that is
  kept of a document and in the mapping that it was written as, with its title as a text;
* `freezing_loses_nothing` — what is lost by freezing, and that no schema of entries misses it.
-/

namespace LibraryCatalogue

open Schema Value Results

/-- What a blind check finds in an entry that was kept is what it finds in the written one. -/
theorem Entry.check_ofRaw {α : Type} {check : Value → Checked α} (hfreeze : Blind freeze check)
    (hthaw : Blind thaw check) (raw : Entries) (title : String) :
    check (Value.map (Entry.ofRaw raw title).fields).thaw =
      check (.map (insert (.text "title") (.text title) raw)) := by
  rw [hthaw]
  exact hfreeze (.map _)

/-- A check finds in a kept entry what it finds in the mapping that the entry was written as, with the
title made a text; faults are found alike. -/
def Entry.CheckedAs {α : Type} (check : Value → Checked α) (v : Value) (e : Entry) : Prop :=
  ∃ raw, v = .map raw ∧ writtenTitle? v = some e.title ∧
    check (Value.map e.fields).thaw = check (.map (insert (.text "title") (.text e.title) raw))

theorem Entry.MadeOf.checkedAs {α : Type} {check : Value → Checked α}
    (hblind : ∀ {f : Value → Value}, Repacking f → Blind f check) {v : Value} {e : Entry}
    (h : e.MadeOf v) : e.CheckedAs check v := by
  obtain ⟨raw, hv, htitle, he⟩ := h
  refine ⟨raw, hv, htitle, ?_⟩
  have hfields : e.fields = (Entry.ofRaw raw e.title).fields := congrArg Entry.fields he
  rw [hfields]
  exact Entry.check_ofRaw (hblind repacking_freeze) (hblind repacking_thaw) raw e.title

/-- **A check finds the same in every entry that is kept of a document**, and in the mapping that the
entry was written as. -/
theorem Contents.checkedAs_of_ofDocument {document : Entries} {source : String} {c : Contents}
    (h : Contents.ofDocument document source = .ok c) :
    List.Forall₂ (Entry.CheckedAs CatalogueEntry.check) (writtenCatalogues document) c.catalogues ∧
      List.Forall₂ (Entry.CheckedAs DoctypeEntry.check) (writtenDoctypes document) c.doctypes := by
  obtain ⟨hcatalogues, hdoctypes⟩ := Contents.madeOf_of_ofDocument h
  exact ⟨hcatalogues.imp fun _ _ => Entry.MadeOf.checkedAs CatalogueEntry.blind_check,
    hdoctypes.imp fun _ _ => Entry.MadeOf.checkedAs DoctypeEntry.blind_check⟩

/-- What is left of a value that is frozen: its tuples are lists when it comes back, and it comes back
as it was when there are none; freezing it once more, at either end, gives nothing else; and the keys
of all mappings stay, in their order. -/
structure Value.Survives (v : Value) : Prop where
  back : v.freeze.thaw = v.unpacked
  same : v.freeze.thaw = v ↔ v.holdsTuple = false
  again : v.freeze.thaw.freeze = v.freeze
  twice : v.freeze.freeze = v.freeze
  frozenKeys : v.freeze.keyRows = v.keyRows
  thawedKeys : v.thaw.keyRows = v.keyRows

theorem Value.survives (v : Value) : v.Survives where
  back := thaw_freeze v
  same := by rw [thaw_freeze, unpacked_eq_self_iff]
  again := by rw [thaw_freeze, freeze_unpacked]
  twice := freeze_freeze v
  frozenKeys := keyRows_freeze v
  thawedKeys := keyRows_thaw v

/-- **Freezing loses nothing that a schema sees.**  Every value survives it but for the difference of
lists and tuples, and in every entry that is kept of a document its schema finds, faults included, what
it would have found in the mapping that the entry was written as. -/
theorem freezing_loses_nothing :
    (∀ v : Value, v.Survives) ∧
      ∀ (document : Entries) (source : String) (c : Contents),
        Contents.ofDocument document source = .ok c →
          List.Forall₂ (Entry.CheckedAs CatalogueEntry.check) (writtenCatalogues document)
            c.catalogues ∧
          List.Forall₂ (Entry.CheckedAs DoctypeEntry.check) (writtenDoctypes document)
            c.doctypes :=
  ⟨Value.survives, fun _ _ _ => Contents.checkedAs_of_ofDocument⟩

/-- A catalogue whose special mappings, and a document type whose codes, are written as tuples. -/
def tupledDocument : Entries :=
  [(.text "catalogue", .map [(.text "title", .text "GBV"),
      (.text "specialmapping", .tuple [.map [(.text "type", .text "Monograph"),
        (.text "value", .text "Ab")]])]),
    (.text "doctypes", .map [(.text "type", .map [(.text "title", .text "Monograph"),
      (.text "mapping", .tuple [.text "Aa", .tuple []])])])]

theorem freezing_loses_nothing_tupledDocument :
    ∃ c, Contents.ofDocument tupledDocument "opac.yaml" = .ok c ∧
      List.Forall₂ (Entry.CheckedAs CatalogueEntry.check) (writtenCatalogues tupledDocument)
        c.catalogues ∧
      List.Forall₂ (Entry.CheckedAs DoctypeEntry.check) (writtenDoctypes tupledDocument)
        c.doctypes := by
  have hloads : ∃ c, Contents.ofDocument tupledDocument "opac.yaml" = .ok c := ⟨_, rfl⟩
  obtain ⟨c, hc⟩ := hloads
  exact ⟨c, hc, freezing_loses_nothing.2 tupledDocument "opac.yaml" c hc⟩

end LibraryCatalogue
