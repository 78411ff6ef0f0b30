import LibraryCatalogue.Proofs.Store.Bookkeeping

/-!
# Failures that get past a store

Whatever is wrong with a file is meant to be an error about the configuration, so that whoever asks
with `tryGet` has it as a value, and so that the fallback can stand in for what is malformed.  Both
hold but for the failures that are no such errors: those of reading, and the refusal of a marker for
another reason than that nothing is there.  A document that values cannot hold is left out.

* `Store.Escapes` — what gets past a store, by what brings it about;
* `get_escapes_iff`, `tryGet_eq_error_iff` — nothing else does;
* `get_fallback_iff` — the fallback stands in for all that is malformed, unless something escapes;
* `failures_reported` — the three ways to read a file, and what they let through;
* `undecodable_escapes` — a file whose bytes are no text gets past all three.
-/

namespace LibraryCatalogue

open Results

namespace Store

variable {s : Store} {now : Sight} {f : Failure}

/-- What gets past a store: the refusal of a marker, or an escape in a file that has to be read. -/
inductive Escapes (s : Store) (now : Sight) : Failure → Prop where
  | marker {fault : FileFault} : now.marker? = .error fault → Escapes s now (.file fault)
  | contents {m : Marker} {f : Failure} : s.loads now = true → now.marker? = .ok (some m) →
      ContentsEscape s.readers s.path now.content f → Escapes s now f

theorem Escapes.kind (h : s.Escapes now f) : f.kind.isA .config = false := by
  cases h with
  | marker _ => exact Failure.file_isA_config _
  | contents _ _ hescape => exact hescape.kind

/-- No fallback stands in for what is no error about the configuration. -/
theorem readResult_of_foreign {r : Source.Readers} {p : Path} {fallback : Bool}
    {content : Except FileFault (List UInt8)} (h : fileContents r p content = .error f)
    (hk : f.kind.isA .config = false) : readResult r p fallback content = .error f := by
  cases hr : readResult r p fallback content with
  | error g =>
    rw [fileContents_of_readResult hr] at h
    exact h
  | ok c =>
    rcases readResult_eq_ok_iff.1 hr with hc | ⟨_, _, e, he, hparse⟩
    · rw [h] at hc
      cases hc
    · rw [h] at he
      cases he
      have hconfig : (Failure.error e).kind.isA .config = true := Kind.isA_trans hparse rfl
      rw [hconfig] at hk
      cases hk

theorem Escapes.get (h : s.Escapes now f) : (s.get now).1.result = .error f := by
  cases h with
  | marker hm => exact get_refused hm
  | contents hl hm hescape =>
    rw [(get_of_loads hl).1, load_result hm,
      readResult_of_foreign hescape.fileContents hescape.kind]
    rfl

theorem escapes_of_get (hopen : ¬ Source.LeftOpen s.readers s.path now.content)
    (h : (s.get now).1.result = .error f) (hk : f.kind.isA .config = false) : s.Escapes now f := by
  cases hm : now.marker? with
  | error fault =>
    rw [get_refused hm] at h
    cases h
    exact .marker hm
  | ok m? =>
    cases hl : s.loads now with
    | false =>
      -- Nothing is read: once the marker is there, what is kept is handed back.
      obtain ⟨d, _, _, hr⟩ := get_of_not_loads hl
      rw [hr, hm] at h
      cases h
    | true =>
      rw [(get_of_loads hl).1] at h
      cases m? with
      | none =>
        rw [load_missing hm] at h
        cases h
        cases hk
      | some m =>
        rw [load_result hm, map_eq_error_iff] at h
        exact .contents hl hm
          (contentsEscape_of_fileContents hopen (fileContents_of_readResult h) hk)

theorem located_of_get (h : (s.get now).1.result = .error f) : f.Located s.path := by
  cases hl : s.loads now with
  | true =>
    rw [(get_of_loads hl).1] at h
    exact located_of_load h
  | false =>
    obtain ⟨d, _, _, hr⟩ := get_of_not_loads hl
    rw [hr] at h
    cases hm : now.marker? with
    | error fault =>
      rw [hm] at h
      cases h
      exact Failure.located_file fault
    | ok m? =>
      rw [hm] at h
      cases h

/-- **A store fails with errors about the configuration, or with what escapes.** -/
theorem get_escapes_iff (hopen : ¬ Source.LeftOpen s.readers s.path now.content) :
    ((s.get now).1.result = .error f ∧ f.kind.isA .config = false) ↔ s.Escapes now f :=
  ⟨fun h => escapes_of_get hopen h.1 h.2, fun h => ⟨h.get, h.kind⟩⟩

/-- **A store hands its errors back as values, unless something escapes.** -/
theorem tryGet_eq_error_iff (hopen : ¬ Source.LeftOpen s.readers s.path now.content) :
    (s.tryGet now).1.result = .error f ↔ s.Escapes now f := by
  rw [← get_escapes_iff hopen, tryGet_result, attempt_eq_error_iff]
  simp

/-- **The fallback stands in for all that is malformed, unless something escapes.** -/
theorem get_fallback_iff {m : Marker} {bytes : List UInt8}
    (hopen : ¬ Source.LeftOpen s.readers s.path now.content) (hfallback : s.fallbackToEmpty = true)
    (hl : s.loads now = true) (hm : now.marker = .ok m) (hbytes : now.content = .ok bytes)
    (hnone : ∀ c, fileContents s.readers s.path now.content ≠ .ok c) :
    (s.get now).1.result = .ok (s.nextDefinition m .empty) ↔ ∀ f, ¬ s.Escapes now f := by
  have hm? : now.marker? = .ok (some m) := (marker?_eq_some_iff now m).2 hm
  constructor
  · intro hget f hescapes
    rw [hescapes.get] at hget
    cases hget
  · intro hnothing
    obtain ⟨f, hf⟩ : ∃ f, fileContents s.readers s.path now.content = .error f := by
      cases hc : fileContents s.readers s.path now.content with
      | error f => exact ⟨f, rfl⟩
      | ok c => exact absurd hc (hnone c)
    have hempty : readResult s.readers s.path s.fallbackToEmpty now.content = .ok .empty := by
      cases fileContents_error hf with
      | malformed hmalformed =>
        obtain ⟨e, rfl, hk, _⟩ := hmalformed
        exact readResult_eq_ok_iff.2 (Or.inr ⟨hfallback, rfl, e, hf, hk⟩)
      | unreadable hrefused =>
        rw [hbytes] at hrefused
        cases hrefused
      | escape hescape => exact absurd (.contents hl hm? hescape) (hnothing f)
      | leftOpen => exact absurd (leftOpen_of_fileContents hf) hopen
    rw [(get_of_loads hl).1, load_result hm?, hempty]
    rfl

/-- **Whatever is wrong with a file is reported, unless it escapes.**  What reading a file fails with,
and what a store fails with, is an error about the configuration that names the path, but for what
escapes; whoever asks for errors as values has them so, unless something escapes; and with the
fallback, a file that can be read but gives no contents counts as empty, unless something escapes.
This is so for all readers of the formats, and all documents that values can hold. -/
theorem failures_reported (s : Store) (now : Sight) :
    (∀ r p content, ¬ Source.LeftOpen r p content →
      (∀ f, (Source.read r p content).result = .error f → f.Located p) ∧
      ∀ f, ((Source.read r p content).result = .error f ∧ f.kind.isA .config = false) ↔
        Source.Escapes r p content f) ∧
    (¬ Source.LeftOpen s.readers s.path now.content →
      (∀ f, (s.get now).1.result = .error f → f.Located s.path) ∧
      (∀ f, ((s.get now).1.result = .error f ∧ f.kind.isA .config = false) ↔ s.Escapes now f) ∧
      (∀ f, (s.tryGet now).1.result = .error f ↔ s.Escapes now f) ∧
      (∀ m bytes, s.fallbackToEmpty = true → s.loads now = true → now.marker = .ok m →
        now.content = .ok bytes → (∀ c, fileContents s.readers s.path now.content ≠ .ok c) →
        ((s.get now).1.result = .ok (s.nextDefinition m .empty) ↔ ∀ f, ¬ s.Escapes now f))) := by
  constructor
  · intro r p content hopen
    simp only [Source.read_result]
    exact ⟨fun f h => (Source.document_error h).located fun _ => Source.Escapes.kind,
      fun f => Source.document_escapes_iff hopen⟩
  · intro hopen
    refine ⟨fun f => located_of_get, fun f => get_escapes_iff hopen,
      fun f => tryGet_eq_error_iff hopen, ?_⟩
    intro m bytes hfallback hl hm hbytes hnone
    exact get_fallback_iff hopen hfallback hl hm hbytes hnone

/-- A file in which a row is not closed. -/
def unclosed : Sight where
  marker := .ok ⟨1, 5⟩
  content := .ok "a: [\n".toUTF8.toList

theorem failures_reported_unclosed :
    ¬ Source.LeftOpen .standard (Path.ofText "opac.yaml") unclosed.content ∧
    (∀ c, fileContents .standard (Path.ofText "opac.yaml") unclosed.content ≠ .ok c) ∧
    ((ofPath (Path.ofText "opac.yaml") true).get unclosed).1.result =
      .ok ((ofPath (Path.ofText "opac.yaml") true).nextDefinition ⟨1, 5⟩ .empty) := by
  have hkind : (error? (Source.document .standard (Path.ofText "opac.yaml") unclosed.content)).map
      Failure.kind = some .parse := by
    decide +kernel
  have hopen : ¬ Source.LeftOpen .standard (Path.ofText "opac.yaml") unclosed.content := by
    intro h
    rw [h] at hkind
    cases hkind
  have hnone : ∀ c, fileContents .standard (Path.ofText "opac.yaml") unclosed.content ≠ .ok c := by
    intro c hc
    obtain ⟨document, hdocument, _⟩ := bind_eq_ok_iff.1 hc
    rw [hdocument] at hkind
    cases hkind
  have hvalue :
      ((ofPath (Path.ofText "opac.yaml") true).tryGet unclosed).1.result.toOption.isSome = true := by
    decide +kernel
  obtain ⟨_, hstore⟩ := failures_reported (ofPath (Path.ofText "opac.yaml") true) unclosed
  obtain ⟨_, _, hraised, hfallback⟩ := hstore hopen
  refine ⟨hopen, hnone, (hfallback ⟨1, 5⟩ _ rfl rfl rfl rfl hnone).2 ?_⟩
  intro f hf
  rw [(hraised f).2 hf] at hvalue
  cases hvalue

/-- A file with a byte that occurs in no text. -/
def garbled : Sight where
  marker := .ok ⟨1, 5⟩
  content := .ok [0x61, 0x3a, 0x20, 0xff, 0x0a]

theorem escapes_garbled :
    Source.Escapes .standard (Path.ofText "opac.yaml") garbled.content .undecodable := by
  have hformat : Source.Format.ofPath? (Path.ofText "opac.yaml") = some .yaml := by decide +kernel
  have hload : Yaml.load [0x61, 0x3a, 0x20, 0xff, 0x0a] = .error .undecodable :=
    error?_eq_some_iff.1 (by decide +kernel)
  have hescape : Source.Escape .standard (Path.ofText "opac.yaml")
      [0x61, 0x3a, 0x20, 0xff, 0x0a] .yaml (Source.ofFault (Path.ofText "opac.yaml") .undecodable) :=
    .fault hload nofun nofun
  exact ⟨_, _, hformat, rfl, hescape⟩

/-- **It is not so that whatever is wrong with a file is an error about the configuration**, nor that
`tryGet` always hands something back, nor that the fallback stands in for every file that can be
read. -/
theorem undecodable_escapes :
    (¬ ∀ p content f, (Source.read .standard p content).result = .error f →
      f.kind.isA .config = true) ∧
    (¬ ∀ (p : Path) (fallback : Bool) (now : Sight),
      ∃ r, ((ofPath p fallback).tryGet now).1.result = .ok r) ∧
    ¬ ∀ (p : Path) (now : Sight) (m : Marker) (bytes : List UInt8), now.marker = .ok m →
      now.content = .ok bytes → ∃ d, ((ofPath p true).get now).1.result = .ok d := by
  have hstore : (ofPath (Path.ofText "opac.yaml") true).Escapes garbled .undecodable :=
    .contents rfl rfl (.reading escapes_garbled)
  refine ⟨?_, ?_, ?_⟩
  · intro h
    have hread := escapes_garbled.document
    rw [← Source.read_result] at hread
    exact absurd (h _ _ _ hread) (by decide)
  · intro h
    obtain ⟨r, hr⟩ := h (Path.ofText "opac.yaml") true garbled
    rw [tryGet_result, hstore.get] at hr
    cases hr
  · intro h
    obtain ⟨d, hd⟩ := h (Path.ofText "opac.yaml") garbled _ _ rfl rfl
    rw [hstore.get] at hd
    cases hd

end Store

end LibraryCatalogue
