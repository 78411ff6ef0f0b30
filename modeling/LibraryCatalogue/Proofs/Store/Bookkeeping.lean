import LibraryCatalogue.Proofs.Store.Failures
import LibraryCatalogue.Proofs.Store.Transparency

/-!
# The books of a store

A store counts its loads and its attempts to read, and numbers the definitions that it loads.  The
books are right after every call, whatever the path showed and wherever a load broke off.

* `Answer`, `Store.answer` — what a call hands back;
* `Failure.Located`, `located_of_load` — an error about a definition names the path of the store;
* `Deed`, `deed_of_turn` — all that a call can do to the books;
* `Store.InOrder`, `inOrder_after` — the invariant, kept by every run;
* `loadedBy`, `loadedBy_versions` — the loads of a run are numbered without a gap;
* `handedOut`, `handedOut_ordered` — the definitions handed out never go back;
* `books_in_order` — all of it together.
-/

namespace LibraryCatalogue

/-! ## Errors name the path -/

/-- A failure that counts as an error about a configuration is an error of the library, and names a
path as its source. -/
def Failure.Located (p : Path) (f : Failure) : Prop :=
  f.kind.isA .config = true → ∃ e, f = .error e ∧ e.context.sourcePath = .text p.text

namespace Failure

variable {p : Path}

theorem located_error {e : Error} (h : e.context.sourcePath = .text p.text) :
    (Failure.error e).Located p :=
  fun _ => ⟨e, rfl, h⟩

theorem located_of_foreign_kind {f : Failure} (h : f.kind.isA .config = false) : f.Located p := by
  intro hk
  rw [h] at hk
  cases hk

theorem located_file (f : FileFault) : (Failure.file f).Located p :=
  located_of_foreign_kind (file_isA_config f)

end Failure

theorem Source.Failing.located {p : Path} {content : Except FileFault (List UInt8)} {f : Failure}
    {escapes : Failure → Prop} (hescapes : ∀ f, escapes f → f.kind.isA .config = false)
    (h : Source.Failing p content escapes f) : f.Located p := by
  cases h with
  | malformed hmalformed =>
    obtain ⟨e, rfl, _, hpath⟩ := hmalformed
    exact Failure.located_error hpath
  | @unreadable fault _ => exact Failure.located_error (Source.kind_unreadable p fault).2
  | escape hescape => exact Failure.located_of_foreign_kind (hescapes _ hescape)
  | leftOpen => exact Failure.located_of_foreign_kind rfl

namespace Store

/-- **An error about a definition names the path of the store.** -/
theorem located_of_load {s : Store} {now : Sight} {f : Failure}
    (h : (s.load now).1.result = .error f) : f.Located s.path := by
  cases hm : now.marker? with
  | error fault =>
    rw [load_refused hm] at h
    cases h
    exact Failure.located_file fault
  | ok m? =>
    cases m? with
    | none =>
      rw [load_missing hm] at h
      cases h
      exact Failure.located_error rfl
    | some m =>
      rw [load_result hm, Results.map_eq_error_iff] at h
      exact (fileContents_error (fileContents_of_readResult h)).located fun _ => ContentsEscape.kind

/-! ## What a call does to the books -/

/-- What a call hands back: a definition, a failure, raised or as a value, or nothing. -/
inductive Answer where
  | definition (d : Definition)
  | failure (f : Failure)
  | nothing

namespace Answer

/-- What the result of a question comes to. -/
def ofResult : Except Failure Definition → Answer
  | .ok d => .definition d
  | .error f => .failure f

/-- The definition that was handed back. -/
def definition? : Answer → Option Definition
  | .definition d => some d
  | _ => none

end Answer

/-- What a turn hands back. -/
def answer (s : Store) (t : Turn) : Answer :=
  match t.call with
  | .get => .ofResult (s.get t.sight).1.result
  | .tryGet =>
    match (s.tryGet t.sight).1.result with
    | .ok r => .ofResult r
    | .error f => .failure f
  | .invalidate => .nothing

theorem answer_get (s : Store) (now : Sight) :
    s.answer ⟨.get, now⟩ = .ofResult (s.get now).1.result := rfl

theorem tryGet_result (s : Store) (now : Sight) :
    (s.tryGet now).1.result = attempt [.config] (s.get now).1.result := rfl

theorem answer_tryGet (s : Store) (now : Sight) :
    s.answer ⟨.tryGet, now⟩ = .ofResult (s.get now).1.result := by
  simp only [answer, tryGet_result, attempt]
  cases (s.get now).1.result with
  | ok d => rfl
  | error f => by_cases hk : ([Kind.config].any f.kind.isA) = true <;> simp [hk, Answer.ofResult]

/-- **All that a call can do to the books** of a store: what it hands back, what it does to the
definition that is kept, and the store that it leaves. -/
inductive Deed (s : Store) (now : Sight) : Answer → Effect → Store → Prop where
  /-- A definition was loaded. -/
  | load {m : Marker} {c : Contents} : now.marker? = .ok (some m) →
      Deed s now (.definition (s.nextDefinition m c)) (.loaded (s.nextDefinition m c))
        (s.publish m c).countRead
  /-- The definition that is kept was handed back. -/
  | keep {d : Definition} : s.cached = some d → Deed s now (.definition d) .nothing s
  /-- The call broke off before the file was read. -/
  | refuse {f : Failure} : f.Located s.path → Deed s now (.failure f) .nothing s
  /-- The call broke off when the file was read. -/
  | fail {f : Failure} {m : Marker} : now.marker? = .ok (some m) → f.Located s.path →
      Deed s now (.failure f) .nothing s.countRead
  /-- The store forgot the definition. -/
  | forget : Deed s now .nothing .forgot { s with cached := none }

theorem deed_of_load (s : Store) (now : Sight) :
    Deed s now (.ofResult (s.load now).1.result)
      (match (s.load now).1.result with
        | .ok d => .loaded d
        | .error _ => .nothing) (s.load now).2 := by
  cases hm : now.marker? with
  | error f =>
    rw [load_refused hm]
    exact .refuse (Failure.located_file f)
  | ok m? =>
    cases m? with
    | none =>
      rw [load_missing hm]
      exact .refuse (Failure.located_error rfl)
    | some m =>
      have hlocated : ∀ f, (s.load now).1.result = .error f → f.Located s.path :=
        fun _ => located_of_load
      rw [load_result hm] at hlocated ⊢
      rw [load_store hm]
      cases hr : readResult s.readers s.path s.fallbackToEmpty now.content with
      | ok c => exact .load hm
      | error f =>
        rw [hr] at hlocated
        exact .fail hm (hlocated f rfl)

theorem deed_of_get (s : Store) (now : Sight) :
    Deed s now (.ofResult (s.get now).1.result) (s.questionEffect now) (s.get now).2 := by
  unfold questionEffect
  cases hl : s.loads now with
  | true =>
    rw [(get_of_loads hl).1, (get_of_loads hl).2]
    exact deed_of_load s now
  | false =>
    obtain ⟨d, hd, hs, hr⟩ := get_of_not_loads hl
    rw [hr, hs]
    cases now.marker? with
    | error f => exact .refuse (Failure.located_file f)
    | ok m? => exact .keep hd

theorem deed_of_turn (s : Store) (t : Turn) :
    Deed s t.sight (s.answer t) (s.effect t) (s.turn t) := by
  obtain ⟨call, now⟩ := t
  cases call with
  | get =>
    simp only [answer_get, effect, turn]
    exact deed_of_get s now
  | tryGet =>
    simp only [answer_tryGet, effect, turn, tryGet_store]
    exact deed_of_get s now
  | invalidate => exact .forget

/-! ## The invariant -/

/-- The books are in order: what is kept has a marker and the number of the last load, and there
were at least as many attempts to read as loads. -/
structure InOrder (s : Store) : Prop where
  kept : ∀ d, s.cached = some d → d.marker.isSome = true ∧ d.version = s.version
  counted : s.version ≤ s.reads

section Deeds

variable {s s' : Store} {now : Sight} {a : Answer} {e : Effect} {d : Definition}

theorem Deed.inOrder (h : Deed s now a e s') (hi : s.InOrder) : s'.InOrder := by
  cases h with
  | load hm =>
    refine ⟨?_, Nat.succ_le_succ hi.counted⟩
    rintro d ⟨⟩
    exact ⟨rfl, rfl⟩
  | keep _ => exact hi
  | refuse _ => exact hi
  | fail _ _ => exact ⟨hi.kept, Nat.le_succ_of_le hi.counted⟩
  | forget => exact ⟨fun d hd => (Option.some_ne_none d hd.symm).elim, hi.counted⟩

theorem Deed.version_le (h : Deed s now a e s') : s.version ≤ s'.version := by
  cases h with
  | load _ => exact Nat.le_succ _
  | keep _ | refuse _ | fail _ _ | forget => exact Nat.le_refl _

theorem Deed.cached_of_answer (h : Deed s now (.definition d) e s') : s'.cached = some d := by
  cases h with
  | load _ => rfl
  | keep hd => exact hd

/-- What is kept afterwards was kept before, or was loaded under the next number. -/
theorem Deed.cached_cases (h : Deed s now a e s') (hd : s'.cached = some d) :
    s.cached = some d ∨ (e = .loaded d ∧ s'.version = s.version + 1) := by
  cases h with
  | load _ =>
    cases hd
    exact Or.inr ⟨rfl, rfl⟩
  | keep _ | refuse _ | fail _ _ => exact Or.inl hd
  | forget => cases hd

end Deeds

/-- **The books are in order after every run.** -/
theorem inOrder_after {s : Store} (hi : s.InOrder) (turns : List Turn) :
    (s.after turns).InOrder := by
  induction turns generalizing s with
  | nil => exact hi
  | cons t rest ih => exact ih ((deed_of_turn s t).inOrder hi)

theorem inOrder_ofPath (p : Path) (fallback : Bool) : (ofPath p fallback).InOrder :=
  ⟨fun d hd => (Option.some_ne_none d hd.symm).elim, Nat.le_refl 0⟩

/-! ## The loads of a run -/

/-- The definition that an effect loaded. -/
def Effect.loaded? : Effect → Option Definition
  | .loaded d => some d
  | _ => none

/-- The definitions that a run loads, one after another. -/
def loadedBy (s : Store) (turns : List Turn) : List Definition :=
  (s.effects turns).filterMap Effect.loaded?

theorem loadedBy_cons (s : Store) (t : Turn) (rest : List Turn) :
    s.loadedBy (t :: rest) = (s.effect t).loaded?.toList ++ (s.turn t).loadedBy rest := by
  unfold loadedBy
  rw [effects, List.filterMap_cons]
  cases (s.effect t).loaded? <;> rfl

theorem Deed.versions {s s' : Store} {now : Sight} {a : Answer} {e : Effect}
    (h : Deed s now a e s') :
    e.loaded?.toList.map (·.version) = List.range' (s.version + 1) e.loaded?.toList.length ∧
      s'.version = s.version + e.loaded?.toList.length := by
  cases h with
  | load _ => exact ⟨rfl, rfl⟩
  | keep _ | refuse _ | fail _ _ | forget => exact ⟨rfl, rfl⟩

/-- **The loads of a run are numbered without a gap**, on from the number of the store. -/
theorem loadedBy_versions (s : Store) (turns : List Turn) :
    (s.loadedBy turns).map (·.version) =
        List.range' (s.version + 1) (s.loadedBy turns).length ∧
      (s.after turns).version = s.version + (s.loadedBy turns).length := by
  induction turns generalizing s with
  | nil => exact ⟨rfl, rfl⟩
  | cons t rest ih =>
    obtain ⟨hfirst, hversion⟩ := (deed_of_turn s t).versions
    obtain ⟨hrest, hafter⟩ := ih (s.turn t)
    rw [loadedBy_cons, List.length_append, after_cons]
    constructor
    · have hnext : (s.turn t).version + 1 =
          s.version + 1 + (s.effect t).loaded?.toList.length := by omega
      rw [List.map_append, hfirst, hrest, hnext, List.range'_append_1]
    · omega

/-! ## The definitions handed out -/

/-- The definitions that a run hands out, one after another. -/
def handedOut (s : Store) : List Turn → List Definition
  | [] => []
  | t :: rest => (s.answer t).definition?.toList ++ (s.turn t).handedOut rest

theorem mem_handedOut_cons {s : Store} {t : Turn} {rest : List Turn} {d : Definition} :
    d ∈ s.handedOut (t :: rest) ↔
      s.answer t = .definition d ∨ d ∈ (s.turn t).handedOut rest := by
  rw [handedOut, List.mem_append]
  cases s.answer t <;> simp [Answer.definition?, eq_comm]

theorem loaded_of_handedOut {s : Store} {turns : List Turn} {d : Definition}
    (h : d ∈ s.handedOut turns) : s.cached = some d ∨ d ∈ s.loadedBy turns := by
  induction turns generalizing s with
  | nil => cases h
  | cons t rest ih =>
    have hdeed := deed_of_turn s t
    have hkept : (s.turn t).cached = some d ∨ d ∈ (s.turn t).loadedBy rest := by
      rcases mem_handedOut_cons.1 h with hanswer | hrest
      · rw [hanswer] at hdeed
        exact Or.inl hdeed.cached_of_answer
      · exact ih hrest
    rw [loadedBy_cons, List.mem_append]
    rcases hkept with hcached | hlater
    · rcases hdeed.cached_cases hcached with hbefore | ⟨heffect, _⟩
      · exact Or.inl hbefore
      · exact Or.inr (Or.inl (by rw [heffect]; exact List.mem_cons_self))
    · exact Or.inr (Or.inr hlater)

/-- What a run hands out is not older than what is kept at first, and the same if it has the same
number. -/
theorem version_le_of_handedOut {s : Store} (hi : s.InOrder) {turns : List Turn} {d : Definition}
    (h : d ∈ s.handedOut turns) :
    s.version ≤ d.version ∧ (d.version = s.version → s.cached = some d) := by
  induction turns generalizing s with
  | nil => cases h
  | cons t rest ih =>
    have hdeed := deed_of_turn s t
    have hi' := hdeed.inOrder hi
    have hlater : (s.turn t).version ≤ d.version ∧
        (d.version = (s.turn t).version → (s.turn t).cached = some d) := by
      rcases mem_handedOut_cons.1 h with hanswer | hrest
      · rw [hanswer] at hdeed
        have hcached := hdeed.cached_of_answer
        exact ⟨Nat.le_of_eq (hi'.kept d hcached).2.symm, fun _ => hcached⟩
      · exact ih hi' hrest
    have hle := hdeed.version_le
    refine ⟨Nat.le_trans hle hlater.1, ?_⟩
    intro hsame
    -- With the same number nothing was loaded in between.
    have hturn : d.version = (s.turn t).version := by omega
    rcases hdeed.cached_cases (hlater.2 hturn) with hbefore | ⟨_, hnext⟩
    · exact hbefore
    · omega

/-- **The definitions handed out never go back**, and two with the same number are the same. -/
theorem handedOut_ordered {s : Store} (hi : s.InOrder) (turns : List Turn) :
    (s.handedOut turns).Pairwise fun d d' =>
      d.version ≤ d'.version ∧ (d.version = d'.version → d = d') := by
  induction turns generalizing s with
  | nil => exact .nil
  | cons t rest ih =>
    have hdeed := deed_of_turn s t
    have hi' := hdeed.inOrder hi
    have hrest := ih hi'
    rw [handedOut]
    cases ha : s.answer t with
    | failure f => exact hrest
    | nothing => exact hrest
    | definition d =>
      rw [ha] at hdeed
      have hcached := hdeed.cached_of_answer
      have hversion := (hi'.kept d hcached).2
      refine List.pairwise_cons.2 ⟨?_, hrest⟩
      intro d' hd'
      obtain ⟨hle, hsame⟩ := version_le_of_handedOut hi' hd'
      refine ⟨by omega, ?_⟩
      intro heq
      have hcached' := hsame (by omega)
      rw [hcached] at hcached'
      exact Option.some.inj hcached'

/-! ## Calls that fail, and calls that find nothing new -/

/-- A call that fails leaves all as it was but for the attempt to read, and none is counted where
nothing lies at the path. -/
theorem Deed.of_failure {s s' : Store} {now : Sight} {e : Effect} {f : Failure}
    (h : Deed s now (.failure f) e s') :
    s'.cached = s.cached ∧ s'.version = s.version ∧ s.reads ≤ s'.reads ∧ s'.reads ≤ s.reads + 1 ∧
      (now.marker? = .ok none → s'.reads = s.reads) ∧ f.Located s.path := by
  cases h with
  | refuse hf => exact ⟨rfl, rfl, Nat.le_refl _, Nat.le_succ _, fun _ => rfl, hf⟩
  | fail hm hf =>
    refine ⟨rfl, rfl, Nat.le_succ _, Nat.le_refl _, ?_, hf⟩
    intro hnone
    rw [hm] at hnone
    cases hnone

/-- A question that finds the marker of what is kept changes nothing and hands it out. -/
theorem turn_of_unchanged {s : Store} {t : Turn} {d : Definition} {m : Marker}
    (hquestion : t.call ≠ .invalidate) (hd : s.cached = some d) (hm : d.marker = some m)
    (hsame : t.sight.marker = .ok m) : s.turn t = s ∧ s.answer t = .definition d := by
  obtain ⟨call, now⟩ := t
  have hm? : now.marker? = .ok (some m) := (marker?_eq_some_iff now m).2 hsame
  have hl : s.loads now = false := by simp [loads, hd, hm?, hm]
  obtain ⟨d', hd', hs, hr⟩ := get_of_not_loads hl
  rw [hd] at hd'
  cases hd'
  rw [hm?] at hr
  cases call with
  | get =>
    simp only [answer_get, hr, turn]
    exact ⟨hs, rfl⟩
  | tryGet =>
    simp only [answer_tryGet, hr, turn, tryGet_store]
    exact ⟨hs, rfl⟩
  | invalidate => exact absurd rfl hquestion

/-- **The books of a store are in order after every run.**  What is kept has a marker and the number
of the last load; there were at least as many attempts to read as loads; the loads are numbered from
one without a gap, only what was loaded is handed out, the numbers of what is handed out never go
back, and two definitions with the same number are the same.  Whatever call comes next: if it fails,
what is kept and the number of the last load stay, at most one more attempt to read is counted, none
where nothing lies at the path, and an error about the configuration names the path; if it finds the
marker of what is kept, it changes nothing. -/
theorem books_in_order (p : Path) (fallback : Bool) (turns : List Turn) :
    let s := (ofPath p fallback).after turns
    let loaded := (ofPath p fallback).loadedBy turns
    let handed := (ofPath p fallback).handedOut turns
    (∀ d, s.cached = some d → d.marker.isSome = true ∧ d.version = s.version) ∧
    s.version ≤ s.reads ∧
    (loaded.map (·.version) = List.range' 1 s.version ∧ (∀ d ∈ handed, d ∈ loaded) ∧
      handed.Pairwise fun d d' => d.version ≤ d'.version ∧ (d.version = d'.version → d = d')) ∧
    ∀ t : Turn,
      (∀ f, s.answer t = .failure f →
        (s.turn t).cached = s.cached ∧ (s.turn t).version = s.version ∧
        s.reads ≤ (s.turn t).reads ∧ (s.turn t).reads ≤ s.reads + 1 ∧
        (t.sight.marker? = .ok none → (s.turn t).reads = s.reads) ∧
        (f.kind.isA .config = true →
          ∃ e, f = .error e ∧ e.context.sourcePath = .text p.text)) ∧
      (∀ d m, t.call ≠ .invalidate → s.cached = some d → d.marker = some m →
        t.sight.marker = .ok m → s.turn t = s ∧ s.answer t = .definition d) := by
  intro s loaded handed
  have hnew := inOrder_ofPath p fallback
  have hi : s.InOrder := inOrder_after hnew turns
  obtain ⟨hversions, hlast⟩ := loadedBy_versions (ofPath p fallback) turns
  have hcount : loaded.length = s.version := by
    rw [hlast]
    exact (Nat.zero_add _).symm
  refine ⟨hi.kept, hi.counted, ⟨?_, ?_, handedOut_ordered hnew turns⟩, ?_⟩
  · rw [← hcount]
    exact hversions
  · intro d hd
    rcases loaded_of_handedOut hd with hcached | hloaded
    · cases hcached
    · exact hloaded
  · intro t
    refine ⟨?_, fun d m => turn_of_unchanged⟩
    intro f hf
    have hdeed := deed_of_turn s t
    rw [hf] at hdeed
    obtain ⟨hcached, hversion, hle, hge, hmissing, hlocated⟩ := hdeed.of_failure
    rw [(after_settings (ofPath p fallback) turns).path] at hlocated
    exact ⟨hcached, hversion, hle, hge, hmissing, hlocated⟩

/-- A store that loaded the whole file, and then met the one that is cut short. -/
def afterCut : Store :=
  (ofPath (Path.ofText "opac.yaml") false).after [⟨.get, wholeFile⟩, ⟨.tryGet, cutFile⟩]

/-- Another look at the file that is cut short fails and changes nothing but the count of attempts,
and one at the whole file finds it as it was. -/
theorem books_in_order_afterCut :
    (afterCut.version, afterCut.reads, (afterCut.turn ⟨.get, cutFile⟩).reads) = (1, 2, 3) ∧
      (∃ e, afterCut.answer ⟨.get, cutFile⟩ = .failure (.error e) ∧
        e.context.sourcePath = .text "opac.yaml" ∧
        (afterCut.turn ⟨.get, cutFile⟩).cached = afterCut.cached) ∧
      ∃ d, d.version = 1 ∧ afterCut.turn ⟨.tryGet, wholeFile⟩ = afterCut ∧
        afterCut.answer ⟨.tryGet, wholeFile⟩ = .definition d := by
  obtain ⟨hkept, _, _, hnext⟩ := books_in_order (Path.ofText "opac.yaml") false
    [⟨.get, wholeFile⟩, ⟨.tryGet, cutFile⟩]
  have hcut : (match afterCut.answer ⟨.get, cutFile⟩ with
      | .failure f => f.kind.isA .config
      | _ => false) = true := by
    decide +kernel
  have hmarker : afterCut.cached.map (fun d => (d.version, d.marker)) =
      some (1, some ⟨1, 23⟩) := by
    decide +kernel
  refine ⟨by decide +kernel, ?_, ?_⟩
  · cases ha : afterCut.answer ⟨.get, cutFile⟩ with
    | definition d =>
      rw [ha] at hcut
      cases hcut
    | nothing =>
      rw [ha] at hcut
      cases hcut
    | failure f =>
      rw [ha] at hcut
      obtain ⟨hcached, _, _, _, _, hlocated⟩ := (hnext ⟨.get, cutFile⟩).1 f ha
      obtain ⟨e, rfl, he⟩ := hlocated hcut
      exact ⟨e, rfl, he, hcached⟩
  · obtain ⟨d, hd, heq⟩ := Option.map_eq_some_iff.1 hmarker
    obtain ⟨hversion, hm⟩ := Prod.mk.inj heq
    obtain ⟨hturn, hanswer⟩ :=
      (hnext ⟨.tryGet, wholeFile⟩).2 d ⟨1, 23⟩ (by decide) hd hm rfl
    exact ⟨d, hversion, hturn, hanswer⟩

end Store

end LibraryCatalogue
