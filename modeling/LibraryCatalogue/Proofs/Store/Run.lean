import LibraryCatalogue.Proofs.Results
import LibraryCatalogue.Store

/-!
# Runs of a store

A store is asked, or told to forget, again and again; between two calls anything may happen to its
path, so that a turn is a call together with what the path shows while it is made.

* `Turn`, `Store.turn`, `Store.after` — one call, and the store after a run of them;
* `readResult`, `readContents_result` — what a load reads depends on the readers, the path, the
  fallback and the bytes alone;
* `fileContents`, `readResult_eq_ok_iff` — it is what is in the file, or nothing in its place;
* `load_result`, `load_store` — what a load gives, and what it leaves behind;
* `loads`, `get_of_loads`, `get_of_not_loads` — when a question loads, and what it does otherwise;
* `Effect`, `Store.effects` — what each turn of a run does to the definition that is kept;
* `cached_after` — the kept definition is that of the last load since the last invalidation.
-/

namespace LibraryCatalogue

open Results

/-- What may be asked of a store. -/
inductive Call where
  | get
  | tryGet
  | invalidate
deriving DecidableEq, Repr

/-- A call, and what the path of the store shows while it is made. -/
structure Turn where
  call : Call
  sight : Sight

namespace Store

/-- The store after a turn. -/
def turn (s : Store) (t : Turn) : Store :=
  match t.call with
  | .get => (s.get t.sight).2
  | .tryGet => (s.tryGet t.sight).2
  | .invalidate => s.invalidate.2

/-- The store after a run. -/
def after (s : Store) (turns : List Turn) : Store :=
  turns.foldl turn s

/-! ## What a load reads -/

/-- The contents that are in a file, or the failure to make them out. -/
def fileContents (r : Source.Readers) (p : Path) (content : Except FileFault (List UInt8)) :
    Except Failure Contents :=
  (Source.document r p content).bind fun document => Contents.ofDocument document p.text

/-- What a load reads: what is in the file, or nothing if that is malformed and counts as empty. -/
def readResult (r : Source.Readers) (p : Path) (fallback : Bool)
    (content : Except FileFault (List UInt8)) : Except Failure Contents :=
  match fileContents r p content with
  | .error (.error e) => if e.kind.isA .parse && fallback then .ok .empty else .error (.error e)
  | contents => contents

theorem parseContents_result (s : Store) (now : Sight) :
    (s.parseContents now).result = fileContents s.readers s.path now.content := by
  unfold parseContents Source.read fileContents
  cases hd : Source.document s.readers s.path now.content with
  | error f => rfl
  | ok document => rfl

theorem readResult_eq_ok_iff {r : Source.Readers} {p : Path} {fallback : Bool}
    {content : Except FileFault (List UInt8)} {c : Contents} :
    readResult r p fallback content = .ok c ↔
      fileContents r p content = .ok c ∨ (fallback = true ∧ c = .empty ∧
        ∃ e, fileContents r p content = .error (.error e) ∧ e.kind.isA .parse = true) := by
  unfold readResult
  cases fileContents r p content with
  | ok c' => simp
  | error f =>
    cases f with
    | error e =>
      cases hk : e.kind.isA .parse <;> cases fallback <;> simp [hk]
      exact eq_comm
    | _ => simp

/-- A load fails only as the file does. -/
theorem fileContents_of_readResult {r : Source.Readers} {p : Path} {fallback : Bool}
    {content : Except FileFault (List UInt8)} {f : Failure}
    (h : readResult r p fallback content = .error f) : fileContents r p content = .error f := by
  unfold readResult at h
  split at h
  · rename_i e hcontents
    split at h
    · cases h
    · cases h
      exact hcontents
  · exact h

/-- **What a load reads depends on the readers, the path, the fallback and the bytes alone**: neither
on what is kept nor on how often was read before. -/
theorem readContents_result (s : Store) (now : Sight) :
    (s.readContents now).result = readResult s.readers s.path s.fallbackToEmpty now.content := by
  unfold readResult readContents
  rw [← parseContents_result]
  dsimp only
  cases hp : (s.parseContents now).result with
  | ok c => simp only [hp]
  | error f =>
    cases f with
    | error e =>
      by_cases hk : e.kind.isA .parse = true <;> by_cases hf : s.fallbackToEmpty = true <;>
        simp [hk, hf, hp]
    | _ => simp only [hp]

/-! ## Loads -/

/-- A load gives what was read as the next definition, or the failure that it ends with. -/
theorem load_result {s : Store} {now : Sight} {m : Marker} (hm : now.marker? = .ok (some m)) :
    (s.load now).1.result =
      (readResult s.readers s.path s.fallbackToEmpty now.content).map (s.nextDefinition m) := by
  rw [← readContents_result]
  simp only [load, takeMarker, hm]
  cases hr : (s.readContents now).result <;> rfl

/-- What a load leaves behind: one more attempt to read, and the new definition if there is one. -/
theorem load_store {s : Store} {now : Sight} {m : Marker} (hm : now.marker? = .ok (some m)) :
    (s.load now).2 =
      match readResult s.readers s.path s.fallbackToEmpty now.content with
      | .ok c => (s.publish m c).countRead
      | .error _ => s.countRead := by
  rw [← readContents_result]
  simp only [load, takeMarker, hm]
  cases hr : (s.readContents now).result <;> rfl

/-- Where nothing lies there is nothing to load. -/
theorem load_missing {s : Store} {now : Sight} (hm : now.marker? = .ok none) :
    s.load now = (Logged.silent (.error (.error (.sourceNotFound s.path.text none))), s) := by
  simp only [load, takeMarker, hm]

/-- Where the system refuses to show a marker, the load ends with the refusal. -/
theorem load_refused {s : Store} {now : Sight} {f : FileFault} (hm : now.marker? = .error f) :
    s.load now = (Logged.silent (.error (.file f)), s) := by
  simp only [load, takeMarker, hm]

/-- **All that a load can do**: it publishes what it read under the marker taken before, or it fails
and at most counts the attempt. -/
theorem load_cases (s : Store) (now : Sight) :
    (∃ m c, now.marker? = .ok (some m) ∧
        readResult s.readers s.path s.fallbackToEmpty now.content = .ok c ∧
        (s.load now).1.result = .ok (s.nextDefinition m c) ∧
        (s.load now).2 = (s.publish m c).countRead) ∨
      (∃ f, (s.load now).1.result = .error f ∧
        ((s.load now).2 = s.countRead ∨ (s.load now).2 = s)) := by
  cases hm : now.marker? with
  | error f => exact Or.inr ⟨.file f, by rw [load_refused hm]; exact ⟨rfl, Or.inr rfl⟩⟩
  | ok m? =>
    cases m? with
    | none => exact Or.inr ⟨_, by rw [load_missing hm]; exact ⟨rfl, Or.inr rfl⟩⟩
    | some m =>
      rw [load_result hm, load_store hm]
      cases hr : readResult s.readers s.path s.fallbackToEmpty now.content with
      | ok c => exact Or.inl ⟨m, c, rfl, rfl, rfl, rfl⟩
      | error f => exact Or.inr ⟨f, rfl, Or.inl rfl⟩

/-- Whether a question makes the store load: nothing is kept, or the marker is another one. -/
def loads (s : Store) (now : Sight) : Bool :=
  match s.cached with
  | none => true
  | some d =>
    match now.marker? with
    | .ok (some m) => some m != d.marker
    | _ => false

theorem get_of_loads {s : Store} {now : Sight} (h : s.loads now = true) :
    (s.get now).1.result = (s.load now).1.result ∧ (s.get now).2 = (s.load now).2 := by
  unfold loads at h
  cases hc : s.cached with
  | none => simp [get, hc]
  | some d =>
    rw [hc] at h
    cases hm : now.marker? with
    | error f => simp [hm] at h
    | ok m? =>
      cases m? with
      | none => simp [hm] at h
      | some m =>
        simp only [hm] at h
        simp [get, hc, isStale, hm, Logged.silent, h]

/-- A question that loads nothing leaves the store as it was: it gives what is kept, or the refusal
of the system. -/
theorem get_of_not_loads {s : Store} {now : Sight} (h : s.loads now = false) :
    ∃ d, s.cached = some d ∧ (s.get now).2 = s ∧
      (s.get now).1.result =
        match now.marker? with
        | .error f => .error (.file f)
        | .ok _ => .ok d := by
  unfold loads at h
  cases hc : s.cached with
  | none => simp [hc] at h
  | some d =>
    rw [hc] at h
    refine ⟨d, rfl, ?_⟩
    cases hm : now.marker? with
    | error f => simp [get, hc, isStale, hm, Logged.silent]
    | ok m? =>
      cases m? with
      | none => simp [get, hc, isStale, hm]
      | some m =>
        simp only [hm] at h
        simp [get, hc, isStale, hm, Logged.silent, h]

theorem tryGet_store (s : Store) (now : Sight) : (s.tryGet now).2 = (s.get now).2 := rfl

/-! ## What the turns of a run do -/

/-- What a turn does to the definition that a store keeps. -/
inductive Effect where
  | loaded (d : Definition)
  | forgot
  | nothing

/-- What a question does: it loads a definition, or tries to, or does not even try. -/
def questionEffect (s : Store) (now : Sight) : Effect :=
  if s.loads now then
    match (s.load now).1.result with
    | .ok d => .loaded d
    | .error _ => .nothing
  else .nothing

/-- What a turn does to the definition that is kept. -/
def effect (s : Store) (t : Turn) : Effect :=
  match t.call with
  | .get | .tryGet => s.questionEffect t.sight
  | .invalidate => .forgot

/-- What the turns of a run do, one after another. -/
def effects (s : Store) : List Turn → List Effect
  | [] => []
  | t :: rest => s.effect t :: (s.turn t).effects rest

/-- The kept definition after an effect. -/
def Effect.kept (before : Option Definition) : Effect → Option Definition
  | .loaded d => some d
  | .forgot => none
  | .nothing => before

/-- A definition is that of the last load since the last invalidation. -/
def LastLoad (es : List Effect) (d : Definition) : Prop :=
  ∃ earlier later, es = earlier ++ .loaded d :: later ∧ ∀ e ∈ later, e = .nothing

/-- Two stores are for the same path, read it alike, and have the same fallback. -/
structure SameSettings (s t : Store) : Prop where
  path : s.path = t.path
  fallback : s.fallbackToEmpty = t.fallbackToEmpty
  readers : s.readers = t.readers

theorem SameSettings.refl (s : Store) : SameSettings s s := ⟨rfl, rfl, rfl⟩

theorem SameSettings.trans {s t u : Store} (h : SameSettings s t) (k : SameSettings t u) :
    SameSettings s u :=
  ⟨h.path.trans k.path, h.fallback.trans k.fallback, h.readers.trans k.readers⟩

/-- A question keeps what its effect says, and the settings of a store never change. -/
theorem get_store (s : Store) (now : Sight) :
    (s.get now).2.cached = (s.questionEffect now).kept s.cached ∧
      SameSettings (s.get now).2 s := by
  unfold questionEffect
  cases hl : s.loads now with
  | false =>
    obtain ⟨d, _, hs, _⟩ := get_of_not_loads hl
    rw [hs]
    exact ⟨rfl, .refl s⟩
  | true =>
    rw [(get_of_loads hl).2]
    rcases load_cases s now with ⟨m, c, _, _, hr, hs⟩ | ⟨f, hr, hs⟩
    · rw [hr, hs]
      exact ⟨rfl, rfl, rfl, rfl⟩
    · rw [hr]
      rcases hs with hs | hs <;> rw [hs] <;> exact ⟨rfl, rfl, rfl, rfl⟩

theorem turn_store (s : Store) (t : Turn) :
    (s.turn t).cached = (s.effect t).kept s.cached ∧ SameSettings (s.turn t) s := by
  obtain ⟨call, now⟩ := t
  cases call with
  | get =>
    simp only [turn, effect]
    exact get_store s now
  | tryGet =>
    simp only [turn, effect, tryGet_store]
    exact get_store s now
  | invalidate => exact ⟨rfl, rfl, rfl, rfl⟩

theorem after_cons (s : Store) (t : Turn) (rest : List Turn) :
    s.after (t :: rest) = (s.turn t).after rest := rfl

theorem after_settings (s : Store) (turns : List Turn) : SameSettings (s.after turns) s := by
  induction turns generalizing s with
  | nil => exact .refl s
  | cons t rest ih => exact (ih (s.turn t)).trans (turn_store s t).2

/-- The last load of a longer run lies in the rest of it, or is its first turn and only idle turns
came after. -/
theorem lastLoad_cons (e : Effect) (es : List Effect) (d : Definition) :
    LastLoad (e :: es) d ↔ LastLoad es d ∨ (e = .loaded d ∧ ∀ x ∈ es, x = .nothing) := by
  constructor
  · rintro ⟨earlier, later, he, hl⟩
    cases earlier with
    | nil =>
      obtain ⟨rfl, rfl⟩ := List.cons.inj he
      exact Or.inr ⟨rfl, hl⟩
    | cons x earlier =>
      obtain ⟨rfl, rfl⟩ := List.cons.inj he
      exact Or.inl ⟨earlier, later, rfl, hl⟩
  · rintro (⟨earlier, later, rfl, hl⟩ | ⟨rfl, hl⟩)
    · exact ⟨e :: earlier, later, rfl, hl⟩
    · exact ⟨[], es, rfl, hl⟩

theorem foldl_kept_eq_some_iff (before : Option Definition) (es : List Effect) (d : Definition) :
    es.foldl Effect.kept before = some d ↔
      LastLoad es d ∨ (before = some d ∧ ∀ x ∈ es, x = .nothing) := by
  induction es generalizing before with
  | nil => simp [LastLoad]
  | cons e es ih =>
    rw [List.foldl_cons, ih, lastLoad_cons]
    cases e <;> simp [Effect.kept, eq_comm]

theorem cached_foldl (s : Store) (turns : List Turn) :
    (s.after turns).cached = (s.effects turns).foldl Effect.kept s.cached := by
  induction turns generalizing s with
  | nil => rfl
  | cons t rest ih =>
    rw [after_cons, ih, (turn_store s t).1]
    rfl

/-- **The kept definition is that of the last load since the last invalidation.** -/
theorem cached_after (p : Path) (fallback : Bool) (turns : List Turn) (d : Definition) :
    ((ofPath p fallback).after turns).cached = some d ↔
      LastLoad ((ofPath p fallback).effects turns) d := by
  rw [cached_foldl, foldl_kept_eq_some_iff]
  simp [ofPath]

end Store

end LibraryCatalogue
