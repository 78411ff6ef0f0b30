import LibraryCatalogue.Log
import Mathlib.Data.List.Forall2

/-!
# Results that may be failures

* `attempt_eq_error_iff` — what is still a failure when failures of some kinds are handed back;
* `bind_eq_ok_iff`, `map_eq_ok_iff` — when one step after another succeeds;
* `bind_eq_error_iff`, `map_eq_error_iff` — and when it fails;
* `map_eq_map_iff` — when two results look the same;
* `toOption_eq_some_iff`, `toOption_map_eq_some_iff` — what is left of a result when the errors are
  not told apart;
* `error?`, `error?_eq_some_iff` — and when the values are not;
* `mapError_ok`, `mapError_error`, `mapError_eq_ok_iff`, `mapError_eq_error_iff` — an error is
  renamed, a result stays;
* `mapM_eq_ok_iff` — a row of steps succeeds exactly when each of them does, item by item;
* `mapM_eq_error_iff` — it fails as the first of them does that fails;
* `mapM_filterMap_eq_ok_iff` — steps that may come to nothing, when none of them does;
* `Logged.result_bind` — what is recorded on the way has no influence on a result.
-/

namespace LibraryCatalogue

/-- What is recorded on the way has no influence on a result. -/
theorem Logged.result_bind {α β : Type} (x : Logged α) (f : α → Logged β) :
    (x >>= f).result = x.result.bind fun a => (f a).result := by
  show (x.andThen f).result = _
  unfold Logged.andThen
  cases x.result <;> rfl

namespace Results

variable {ε α β : Type}

/-- An operation still fails with what is not of the kinds to be handed back. -/
theorem attempt_eq_error_iff {kinds : List Kind} {x : Except Failure α} {f : Failure} :
    attempt kinds x = .error f ↔ x = .error f ∧ kinds.any f.kind.isA = false := by
  cases x with
  | ok a => simp [attempt]
  | error g =>
    rw [attempt]
    split
    · rename_i hk
      constructor
      · intro h
        cases h
      · rintro ⟨h, hf⟩
        cases h
        rw [hk] at hf
        cases hf
    · rename_i hk
      constructor
      · intro h
        cases h
        exact ⟨rfl, Bool.eq_false_iff.2 hk⟩
      · rintro ⟨h, _⟩
        cases h
        rfl

theorem bind_eq_ok_iff {x : Except ε α} {f : α → Except ε β} {b : β} :
    (x >>= f) = .ok b ↔ ∃ a, x = .ok a ∧ f a = .ok b := by
  cases x with
  | error e => simp [bind, Except.bind]
  | ok a => simp [bind, Except.bind]

theorem bind_eq_error_iff {x : Except ε α} {f : α → Except ε β} {e : ε} :
    (x >>= f) = .error e ↔ x = .error e ∨ ∃ a, x = .ok a ∧ f a = .error e := by
  cases x with
  | error e => simp [bind, Except.bind]
  | ok a => simp [bind, Except.bind]

theorem map_eq_ok_iff {x : Except ε α} {f : α → β} {b : β} :
    x.map f = .ok b ↔ ∃ a, x = .ok a ∧ f a = b := by
  cases x with
  | error e => simp [Except.map]
  | ok a => simp [Except.map]

theorem map_eq_error_iff {x : Except ε α} {f : α → β} {e : ε} :
    x.map f = .error e ↔ x = .error e := by
  cases x with
  | error e => simp [Except.map]
  | ok a => simp [Except.map]

/-- Two results look the same when they are the same failure, or results that look the same. -/
theorem map_eq_map_iff {γ : Type} {x : Except ε α} {y : Except ε β} {f : α → γ} {g : β → γ} :
    x.map f = y.map g ↔
      (∃ a b, x = .ok a ∧ y = .ok b ∧ f a = g b) ∨ ∃ e, x = .error e ∧ y = .error e := by
  cases x <;> cases y <;> simp [Except.map, eq_comm]

theorem toOption_eq_some_iff {x : Except ε α} {a : α} : x.toOption = some a ↔ x = .ok a := by
  cases x <;> simp [Except.toOption]

theorem toOption_map_eq_some_iff {x : Except ε α} {f : α → β} {b : β} :
    x.toOption.map f = some b ↔ ∃ a, x = .ok a ∧ f a = b := by
  simp only [Option.map_eq_some_iff, toOption_eq_some_iff]

/-- The error that a result is, if it is one. -/
def error? : Except ε α → Option ε
  | .ok _ => none
  | .error e => some e

theorem error?_eq_some_iff {x : Except ε α} {e : ε} : error? x = some e ↔ x = .error e := by
  cases x <;> simp [error?]

theorem mapError_ok {δ : Type} (f : ε → δ) (a : α) : (Except.ok a).mapError f = .ok a := rfl

theorem mapError_error {δ : Type} (f : ε → δ) (e : ε) :
    (Except.error e : Except ε α).mapError f = .error (f e) := rfl

theorem mapError_eq_ok_iff {δ : Type} {f : ε → δ} {x : Except ε α} {a : α} :
    x.mapError f = .ok a ↔ x = .ok a := by
  cases x <;> simp [mapError_ok, mapError_error]

theorem mapError_eq_error_iff {δ : Type} {f : ε → δ} {x : Except ε α} {d : δ} :
    x.mapError f = .error d ↔ ∃ e, x = .error e ∧ f e = d := by
  cases x <;> simp [mapError_ok, mapError_error]

theorem mapM_cons (f : α → Except ε β) (x : α) (xs : List α) :
    (x :: xs).mapM f = f x >>= fun y => (xs.mapM f).map (y :: ·) := by
  rw [List.mapM_cons]
  rfl

/-- **A row of steps succeeds exactly when each of them does.** -/
theorem mapM_eq_ok_iff {f : α → Except ε β} {xs : List α} {ys : List β} :
    xs.mapM f = .ok ys ↔ List.Forall₂ (fun x y => f x = .ok y) xs ys := by
  induction xs generalizing ys with
  | nil => simp [pure, Except.pure, eq_comm]
  | cons x xs ih =>
    rw [mapM_cons, bind_eq_ok_iff, List.forall₂_cons_left_iff]
    constructor
    · rintro ⟨y, hy, h⟩
      obtain ⟨rest, hr, rfl⟩ := map_eq_ok_iff.1 h
      exact ⟨y, rest, hy, ih.1 hr, rfl⟩
    · rintro ⟨y, rest, hy, hr, rfl⟩
      exact ⟨y, hy, map_eq_ok_iff.2 ⟨rest, ih.2 hr, rfl⟩⟩

/-- What stands on the right of two related rows is related to something on the left. -/
theorem exists_left_of_forall₂ {R : α → β → Prop} {xs : List α} {ys : List β}
    (h : List.Forall₂ R xs ys) : ∀ y ∈ ys, ∃ x ∈ xs, R x y := by
  induction h with
  | nil => simp
  | @cons x y xs ys hx _ ih =>
    intro z hz
    rcases List.mem_cons.1 hz with rfl | hz
    · exact ⟨x, List.mem_cons_self, hx⟩
    · obtain ⟨w, hw, hwz⟩ := ih z hz
      exact ⟨w, List.mem_cons_of_mem x hw, hwz⟩

/-- What stands on the left of two related rows is related to something on the right. -/
theorem exists_right_of_forall₂ {R : α → β → Prop} {xs : List α} {ys : List β}
    (h : List.Forall₂ R xs ys) : ∀ x ∈ xs, ∃ y ∈ ys, R x y :=
  exists_left_of_forall₂ h.flip

/-- What comes out of a row of steps came out of one of them. -/
theorem mem_of_mapM_eq_ok {f : α → Except ε β} {xs : List α} {ys : List β}
    (h : xs.mapM f = .ok ys) : ∀ y ∈ ys, ∃ x ∈ xs, f x = .ok y :=
  exists_left_of_forall₂ (mapM_eq_ok_iff.1 h)

/-- **A row of steps fails as the first of them does that fails.** -/
theorem mapM_eq_error_iff {f : α → Except ε β} {xs : List α} {e : ε} :
    xs.mapM f = .error e ↔ ∃ before x after, xs = before ++ x :: after ∧
      (∀ y ∈ before, ∃ b, f y = .ok b) ∧ f x = .error e := by
  induction xs with
  | nil => simp [pure, Except.pure]
  | cons x xs ih =>
    rw [mapM_cons]
    constructor
    · intro h
      cases hx : f x with
      | error e' =>
        rw [hx] at h
        cases h
        exact ⟨[], x, xs, rfl, fun y hy => absurd hy List.not_mem_nil, hx⟩
      | ok y =>
        rw [hx] at h
        cases hr : xs.mapM f with
        | ok ys =>
          rw [hr] at h
          cases h
        | error e' =>
          rw [hr] at h
          cases h
          obtain ⟨before, w, after, rfl, hb, hw⟩ := ih.1 hr
          exact ⟨x :: before, w, after, rfl, List.forall_mem_cons.2 ⟨⟨y, hx⟩, hb⟩, hw⟩
    · rintro ⟨before, w, after, heq, hb, hw⟩
      cases before with
      | nil =>
        obtain ⟨rfl, rfl⟩ := List.cons.inj heq
        rw [hw]
        rfl
      | cons x' before =>
        obtain ⟨rfl, rfl⟩ := List.cons.inj heq
        obtain ⟨⟨y, hy⟩, hb⟩ := List.forall_mem_cons.1 hb
        rw [hy, ih.2 ⟨before, w, after, rfl, hb, hw⟩]
        rfl

theorem exists_mapM_eq_ok_iff {f : α → Except ε β} {xs : List α} :
    (∃ ys, xs.mapM f = .ok ys) ↔ ∀ x ∈ xs, ∃ y, f x = .ok y := by
  constructor
  · rintro ⟨ys, hys⟩ x hx
    obtain ⟨y, _, hy⟩ := exists_right_of_forall₂ (mapM_eq_ok_iff.1 hys) x hx
    exact ⟨y, hy⟩
  · intro h
    cases hm : xs.mapM f with
    | ok ys => exact ⟨ys, rfl⟩
    | error e =>
      obtain ⟨_, x, _, rfl, _, hx⟩ := mapM_eq_error_iff.1 hm
      obtain ⟨y, hy⟩ := h x (by simp)
      rw [hx] at hy
      cases hy

/-- A row of steps fails as one of them does. -/
theorem exists_error_of_mapM {f : α → Except ε β} {xs : List α} {e : ε}
    (h : xs.mapM f = .error e) : ∃ x ∈ xs, f x = .error e := by
  obtain ⟨before, x, after, rfl, _, hx⟩ := mapM_eq_error_iff.1 h
  exact ⟨x, by simp, hx⟩

/-- Steps none of which comes to nothing give one result each. -/
theorem mapM_filterMap_eq_ok_iff {f : α → Except ε (Option β)} {xs : List α} {ys : List β}
    (hsome : ∀ x ∈ xs, f x ≠ .ok none) :
    (xs.mapM f).map (·.filterMap id) = .ok ys ↔
      List.Forall₂ (fun x y => f x = .ok (some y)) xs ys := by
  rw [map_eq_ok_iff]
  constructor
  · rintro ⟨os, hos, rfl⟩
    have hf := mapM_eq_ok_iff.1 hos
    clear hos
    induction hf with
    | nil => exact .nil
    | @cons x o xs os hx _ ih =>
      obtain ⟨hne, hrest⟩ := List.forall_mem_cons.1 hsome
      cases o with
      | none => exact absurd hx hne
      | some y => exact .cons hx (ih hrest)
  · intro hf
    refine ⟨ys.map some, mapM_eq_ok_iff.2 ?_, by simp [List.filterMap_map]⟩
    rw [List.forall₂_map_right_iff]
    exact hf

/-- They fail as the first of them does that fails. -/
theorem map_mapM_eq_error_iff {γ : Type} {f : α → Except ε β} {g : List β → γ} {xs : List α} {e : ε} :
    (xs.mapM f).map g = .error e ↔ ∃ before x after, xs = before ++ x :: after ∧
      (∀ y ∈ before, ∃ b, f y = .ok b) ∧ f x = .error e := by
  rw [← mapM_eq_error_iff]
  cases xs.mapM f <;> simp [Except.map]

end Results

end LibraryCatalogue
