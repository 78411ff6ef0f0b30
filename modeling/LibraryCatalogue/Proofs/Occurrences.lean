import Mathlib.Data.List.Basic

/-!
# First occurrences

What is left of a row when repeated items are dropped.

* `idxOf_eraseDups` — the items stand in the order of their first occurrences;
* `nodup_eraseDups`, `eraseDups_of_nodup` — none is left twice, and nothing is dropped where none
  occurs twice;
* `eraseDups_concat` — one more item at the end is left when it is new.
-/

namespace LibraryCatalogue

variable {α : Type} [DecidableEq α] {xs : List α} {a b : α}

/-- Leaving others out does not change which of two items comes first. -/
theorem idxOf_lt_of_filter {p : α → Bool} (ha : p a = true) (hb : p b = true)
    (h : (xs.filter p).idxOf a < (xs.filter p).idxOf b) : xs.idxOf a < xs.idxOf b := by
  induction xs with
  | nil => exact absurd h (by simp)
  | cons x xs ih =>
    by_cases hxa : x = a
    · subst hxa
      have hne : x ≠ b := by
        rintro rfl
        exact absurd h (Nat.lt_irrefl _)
      simp [hne]
    · by_cases hxb : x = b
      · subst hxb
        rw [List.filter_cons_of_pos hb] at h
        simp at h
      · have hrest : (xs.filter p).idxOf a < (xs.filter p).idxOf b := by
          by_cases hx : p x = true
          · rw [List.filter_cons_of_pos hx] at h
            simpa [List.idxOf_cons, hxa, hxb] using h
          · rwa [List.filter_cons_of_neg hx] at h
        have hlt := ih hrest
        simpa [List.idxOf_cons, hxa, hxb] using hlt

/-- **What is left when repeated items are dropped stands in the order of first occurrences.** -/
theorem idxOf_eraseDups (xs : List α) :
    xs.eraseDups.Pairwise fun a b => xs.idxOf a < xs.idxOf b := by
  match xs with
  | [] => simp
  | x :: xs =>
    have hothers : ∀ y ∈ (xs.filter fun y => !y == x).eraseDups, y ≠ x := by
      intro y hy
      simpa using (List.mem_filter.1 (List.mem_eraseDups.1 hy)).2
    rw [List.eraseDups_cons, List.pairwise_cons]
    constructor
    · intro y hy
      simp [(hothers y hy).symm]
    · refine (idxOf_eraseDups (xs.filter fun y => !y == x)).imp_of_mem ?_
      intro a b ha hb hab
      have hlt := idxOf_lt_of_filter (by simpa using hothers a ha) (by simpa using hothers b hb) hab
      simpa [List.idxOf_cons, (hothers a ha).symm, (hothers b hb).symm] using hlt
termination_by xs.length
decreasing_by
  exact Nat.lt_succ_of_le (List.length_filter_le _ _)

theorem nodup_eraseDups (xs : List α) : xs.eraseDups.Nodup := by
  refine (idxOf_eraseDups xs).imp fun {a b} hlt => ?_
  rintro rfl
  exact Nat.lt_irrefl _ hlt

theorem eraseDups_of_nodup (h : xs.Nodup) : xs.eraseDups = xs := by
  induction xs with
  | nil => rfl
  | cons x xs ih =>
    obtain ⟨hx, hxs⟩ := List.nodup_cons.1 h
    have hothers : xs.filter (fun y => !y == x) = xs := by
      rw [List.filter_eq_self]
      intro y hy
      simpa using ne_of_mem_of_not_mem hy hx
    rw [List.eraseDups_cons, hothers, ih hxs]

/-- One more item at the end is left when it is new. -/
theorem eraseDups_concat (xs : List α) (a : α) :
    (xs ++ [a]).eraseDups = if a ∈ xs then xs.eraseDups else xs.eraseDups ++ [a] := by
  rw [List.eraseDups_append]
  by_cases h : a ∈ xs <;> simp [List.removeAll, List.eraseDups_cons, h]

end LibraryCatalogue
