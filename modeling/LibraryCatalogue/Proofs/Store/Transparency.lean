import LibraryCatalogue.Proofs.Store.Run

/-!
# The cache of a store cannot be told from reading anew

A store that has been through any run answers a question as a store would that was made this very
moment, as long as the system shows the file and equal markers mean equal bytes.

* `MarkersTell` — the assumption: of two states of the path with one marker the bytes are the same;
* `Grounded` — the invariant: what is kept was read from a state that was seen, under its marker;
* `grounded_after` — every run keeps it, through failed loads, fallbacks and invalidations;
* `get_eq_fresh` — the cache is transparent.
-/

namespace LibraryCatalogue.Store

/-- States of a path are told apart by their markers: the same marker, the same bytes. -/
def MarkersTell (sights : List Sight) : Prop :=
  ∀ a ∈ sights, ∀ b ∈ sights, ∀ m, a.marker = .ok m → b.marker = .ok m → a.content = b.content

/-- What is kept was read from a state of the path that was seen, and stands for its marker. -/
def Grounded (seen : List Sight) (s : Store) : Prop :=
  ∀ d, s.cached = some d → ∃ past ∈ seen, ∃ m, past.marker = .ok m ∧ d.marker = some m ∧
    readResult s.readers s.path s.fallbackToEmpty past.content = .ok d.contents

theorem marker?_eq_some_iff (now : Sight) (m : Marker) :
    now.marker? = .ok (some m) ↔ now.marker = .ok m := by
  unfold Sight.marker?
  cases now.marker with
  | ok m' => simp
  | error f => by_cases hf : f.problem = .notFound <;> simp [hf]

theorem marker?_eq_none_iff (now : Sight) :
    now.marker? = .ok none ↔ ∃ f, now.marker = .error f ∧ f.problem = .notFound := by
  unfold Sight.marker?
  cases now.marker with
  | ok m' => simp
  | error f => by_cases hf : f.problem = .notFound <;> simp [hf]

theorem marker?_of_refused {now : Sight} {f : FileFault} (h : now.marker = .error f)
    (hf : f.problem ≠ .notFound) : now.marker? = .error f := by
  simp [Sight.marker?, h, hf]

/-! ## The invariant -/

theorem Grounded.mono {seen more : List Sight} {s : Store} (hg : Grounded seen s)
    (hs : ∀ x ∈ seen, x ∈ more) : Grounded more s := by
  intro d hd
  obtain ⟨past, hp, h⟩ := hg d hd
  exact ⟨past, hs past hp, h⟩

/-- A question keeps the invariant: what it loads it read under the marker that it took. -/
theorem grounded_get {seen : List Sight} {s : Store} (hg : Grounded seen s) (now : Sight) :
    Grounded (now :: seen) (s.get now).2 := by
  have hold : Grounded (now :: seen) s := hg.mono fun x hx => List.mem_cons_of_mem now hx
  cases hl : s.loads now with
  | false =>
    obtain ⟨_, _, hs, _⟩ := get_of_not_loads hl
    rw [hs]
    exact hold
  | true =>
    rw [(get_of_loads hl).2]
    rcases load_cases s now with ⟨m, c, hm, hr, _, hs⟩ | ⟨_, _, hs⟩
    · rw [hs]
      intro d hd
      cases hd
      exact ⟨now, List.mem_cons_self, m, (marker?_eq_some_iff now m).1 hm, rfl, hr⟩
    · rcases hs with hs | hs <;> rw [hs] <;> exact hold

theorem grounded_turn {seen : List Sight} {s : Store} (hg : Grounded seen s) (t : Turn) :
    Grounded (t.sight :: seen) (s.turn t) := by
  obtain ⟨call, now⟩ := t
  cases call with
  | get =>
    simp only [turn]
    exact grounded_get hg now
  | tryGet =>
    simp only [turn, tryGet_store]
    exact grounded_get hg now
  | invalidate =>
    intro d hd
    cases hd

/-- **Every run keeps the invariant.** -/
theorem grounded_after {seen : List Sight} {s : Store} (hg : Grounded seen s) (turns : List Turn) :
    Grounded (turns.map (·.sight) ++ seen) (s.after turns) := by
  induction turns generalizing seen s with
  | nil => exact hg
  | cons t rest ih =>
    rw [after_cons]
    refine (ih (grounded_turn hg t)).mono fun x hx => ?_
    simp only [List.map_cons, List.cons_append, List.mem_cons, List.mem_append] at hx ⊢
    rcases hx with hx | hx | hx
    · exact Or.inr (Or.inl hx)
    · exact Or.inl hx
    · exact Or.inr (Or.inr hx)

/-! ## Answers -/

/-- What a store that was just made answers: the contents that are in the file now. -/
theorem fresh_get (p : Path) (fallback : Bool) {now : Sight} {m : Marker}
    (hm : now.marker = .ok m) :
    ((ofPath p fallback).get now).1.result.map (·.contents) =
      readResult .standard p fallback now.content := by
  have hl : (ofPath p fallback).loads now = true := rfl
  rw [(get_of_loads hl).1, load_result ((marker?_eq_some_iff now m).2 hm)]
  simp only [ofPath]
  cases readResult .standard p fallback now.content <;> rfl

/-- A store whose kept definition is grounded answers with the contents that are in the file now. -/
theorem get_of_grounded {seen : List Sight} {s : Store} (hg : Grounded seen s) {now : Sight}
    {m : Marker} (hm : now.marker = .ok m) (ht : MarkersTell (now :: seen)) :
    (s.get now).1.result.map (·.contents) =
      readResult s.readers s.path s.fallbackToEmpty now.content := by
  have hm? := (marker?_eq_some_iff now m).2 hm
  cases hl : s.loads now with
  | true =>
    rw [(get_of_loads hl).1, load_result hm?]
    cases readResult s.readers s.path s.fallbackToEmpty now.content <;> rfl
  | false =>
    obtain ⟨d, hd, _, hr⟩ := get_of_not_loads hl
    obtain ⟨past, hp, m', hpast, hdm, hread⟩ := hg d hd
    -- Nothing was loaded, so the marker now is the one that the kept definition was read under.
    have hsame : m' = m := by
      simp only [loads, hd, hm?, hdm, bne_eq_false_iff_eq, Option.some.injEq] at hl
      exact hl.symm
    subst hsame
    have hcontent : now.content = past.content :=
      ht now List.mem_cons_self past (List.mem_cons_of_mem now hp) m' hm hpast
    rw [hr, hm?, hcontent, hread]
    rfl

/-- What a store answers while nothing lies at its path. -/
theorem get_missing {s : Store} {now : Sight} (hm : now.marker? = .ok none) :
    (s.get now).1.result =
      match s.cached with
      | some d => .ok d
      | none => .error (.error (.sourceNotFound s.path.text none)) := by
  cases hc : s.cached with
  | none =>
    have hl : s.loads now = true := by simp [loads, hc]
    rw [(get_of_loads hl).1, load_missing hm]
    rfl
  | some d =>
    have hl : s.loads now = false := by simp [loads, hc, hm]
    obtain ⟨d', hd', _, hr⟩ := get_of_not_loads hl
    rw [hr, hm]
    rw [hc] at hd'
    cases hd'
    rfl

/-- What a store answers while the system refuses to show a marker for any other reason. -/
theorem get_refused {s : Store} {now : Sight} {f : FileFault} (hm : now.marker? = .error f) :
    (s.get now).1.result = .error (.file f) := by
  cases hl : s.loads now with
  | true =>
    rw [(get_of_loads hl).1, load_refused hm]
    rfl
  | false =>
    obtain ⟨_, _, _, hr⟩ := get_of_not_loads hl
    rw [hr, hm]

/-- **The cache is transparent.**  After any run, and while equal markers mean equal bytes: where the
system shows the file, a question gives the contents, or fails with the failure, that a new store
would give; where nothing lies, it gives the definition of the last load since the last
invalidation, and fails for want of a source if there was none; every other refusal is passed on. -/
theorem get_eq_fresh (p : Path) (fallback : Bool) (turns : List Turn) (now : Sight)
    (ht : MarkersTell (now :: turns.map (·.sight))) :
    let s := (ofPath p fallback).after turns
    let es := (ofPath p fallback).effects turns
    (∀ m, now.marker = .ok m →
      (s.get now).1.result.map (·.contents) =
        ((ofPath p fallback).get now).1.result.map (·.contents)) ∧
    (∀ f, now.marker = .error f → f.problem = .notFound →
      (∀ d, LastLoad es d → (s.get now).1.result = .ok d) ∧
      ((¬ ∃ d, LastLoad es d) →
        (s.get now).1.result = .error (.error (.sourceNotFound p.text none)))) ∧
    (∀ f, now.marker = .error f → f.problem ≠ .notFound →
      (s.get now).1.result = .error (.file f)) := by
  intro s es
  obtain ⟨hp, hf, hr⟩ := after_settings (ofPath p fallback) turns
  have hg : Grounded (turns.map (·.sight)) s := by
    have h0 : Grounded [] (ofPath p fallback) := fun d hd => by cases hd
    simpa using grounded_after h0 turns
  refine ⟨?_, ?_, ?_⟩
  · intro m hm
    rw [get_of_grounded hg hm ht, fresh_get p fallback hm, hr, hp, hf]
    rfl
  · intro f hm hf'
    rw [get_missing ((marker?_eq_none_iff now).2 ⟨f, hm, hf'⟩)]
    constructor
    · intro d hd
      rw [(cached_after p fallback turns d).2 hd]
    · intro hnone
      cases hc : s.cached with
      | none =>
        rw [hp]
        rfl
      | some d => exact absurd ⟨d, (cached_after p fallback turns d).1 hc⟩ hnone
  · intro f hm hf'
    exact get_refused (marker?_of_refused hm hf')

/-- A file with one catalogue. -/
def wholeFile : Sight :=
  ⟨.ok ⟨1, 23⟩, .ok "catalogue:\n- title: GBV".toUTF8.toList⟩

/-- The same file, cut short. -/
def cutFile : Sight :=
  ⟨.ok ⟨2, 12⟩, .ok "catalogue: [".toUTF8.toList⟩

theorem markersTell_of_restored : MarkersTell [wholeFile, wholeFile, cutFile] := by
  intro a ha b hb m hma hmb
  simp only [List.mem_cons, List.not_mem_nil, or_false] at ha hb
  rcases ha with rfl | rfl | rfl <;> rcases hb with rfl | rfl | rfl <;>
    first
    | rfl
    | (have h := hma.trans hmb.symm
       simp [wholeFile, cutFile] at h)

/-- A file that was cut short and is whole again: the store never noticed. -/
theorem get_eq_fresh_of_restored :
    MarkersTell [wholeFile, wholeFile, cutFile] ∧
      let p := Path.ofText "opac.yaml"
      let s := (ofPath p false).after [⟨.get, wholeFile⟩, ⟨.get, cutFile⟩]
      ((s.get wholeFile).1.result.map (·.catalogueTitles)).toOption = some ["GBV"] ∧
      (s.get wholeFile).1.result.map (·.contents) =
        ((ofPath p false).get wholeFile).1.result.map (·.contents) :=
  ⟨markersTell_of_restored, by decide +kernel,
    (get_eq_fresh (Path.ofText "opac.yaml") false [⟨.get, wholeFile⟩, ⟨.get, cutFile⟩] wholeFile
      markersTell_of_restored).1 ⟨1, 23⟩ rfl⟩

end LibraryCatalogue.Store
