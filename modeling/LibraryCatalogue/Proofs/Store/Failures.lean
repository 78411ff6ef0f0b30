import LibraryCatalogue.Proofs.Definition.Outline
import LibraryCatalogue.Proofs.Store.Run

/-!
# Why a file does not give its contents

What is malformed is said to be so by a parsing error that names the path, and a file that the system
refuses to open is said to be unreadable.  Some failures are neither: bytes that are no text, a scalar
that says what no value is, a document in characters that nobody knows, an attribute that has the
place of a list.  All of this holds whatever the readers of the formats make of bytes; of a document
that they cannot hand over as a value nothing is said.

* `Failure.Malformed` — parsing errors about a path;
* `Source.Escape` — the failures that are no errors about the configuration, by what brings them
  about;
* `Source.LeftOpen` — the documents of which nothing is said;
* `Source.Failing` — all that a file can fail with, when some failures escape;
* `Source.document_error` — the document in a file fails with no more than that;
* `Store.ContentsEscape`, `Store.fileContents_error` — and its contents with one thing more: a title that
  is too long to be written;
* `document_escapes_iff`, `contentsEscape_of_fileContents` — the escapes are what is no error about
  the configuration.
-/

namespace LibraryCatalogue

open Results

/-- A parsing error about the document at a path. -/
def Failure.Malformed (p : Path) (f : Failure) : Prop :=
  ∃ e, f = .error e ∧ e.kind.isA .parse = true ∧ e.context.sourcePath = .text p.text

theorem Failure.Malformed.kind {p : Path} {f : Failure} (h : f.Malformed p) :
    f.kind.isA .config = true := by
  obtain ⟨e, rfl, hk, _⟩ := h
  exact Kind.isA_trans hk rfl

/-- The refusals of the system are no errors about the configuration. -/
theorem Failure.file_isA_config (fault : FileFault) :
    (Failure.file fault).kind.isA .config = false := by
  obtain ⟨problem, path⟩ := fault
  cases problem <;> rfl

namespace Source

/-- What reading bytes fails with that is no error about the configuration: what the reader of a format
refuses for another reason than that the bytes are none of the format, and an attribute that has the
place of a list. -/
inductive Escape (r : Readers) (p : Path) (bytes : List UInt8) : Format → Failure → Prop where
  | fault {fault : Yaml.Fault} : r.yaml bytes = .error fault → fault ≠ .malformed →
      fault ≠ .unmodelled → Escape r p bytes .yaml (ofFault p fault)
  | refusal {refusal : Xml.Refusal} : r.xml bytes = .error refusal → refusal ≠ .malformed →
      Escape r p bytes .xml (ofRefusal p refusal)
  | nameClash {e : Xml.Element} {name : String} : r.xml bytes = .ok e →
      elementValue e = .error name → Escape r p bytes .xml (.nameClash name)

variable {r : Readers} {p : Path} {bytes : List UInt8} {format : Format} {f : Failure}

theorem Escape.kind (h : Escape r p bytes format f) : f.kind.isA .config = false := by
  cases h with
  | @fault fault _ hne _ =>
    cases fault with
    | malformed => exact absurd rfl hne
    | _ => rfl
  | @refusal refusal _ hne =>
    cases refusal with
    | malformed => exact absurd rfl hne
    | _ => rfl
  | nameClash _ _ => rfl

theorem Escape.read (h : Escape r p bytes format f) : format.read r p bytes = .error f := by
  cases h with
  | fault hload _ _ => simp only [Format.read, readYaml, hload]
  | refusal hparse _ => simp only [Format.read, readXml, hparse]
  | nameClash hparse hvalue => simp only [Format.read, readXml, hparse, hvalue]

theorem kind_unreadable (p : Path) (fault : FileFault) :
    (Failure.error (unreadable p fault)).kind.isA .config = true ∧
      (unreadable p fault).context.sourcePath = .text p.text := by
  unfold unreadable
  split <;> exact ⟨rfl, rfl⟩

/-- What the file at a path fails with that is no error about the configuration. -/
def Escapes (r : Readers) (p : Path) (content : Except FileFault (List UInt8)) (f : Failure) : Prop :=
  ∃ format bytes, Format.ofPath? p = some format ∧ content = .ok bytes ∧ Escape r p bytes format f

/-- The document in the file at a path is one that values cannot hold, so that nothing is said of it. -/
def LeftOpen (r : Readers) (p : Path) (content : Except FileFault (List UInt8)) : Prop :=
  document r p content = .error .unmodelled

/-- All that the file at a path can fail with, when some failures escape. -/
inductive Failing (p : Path) (content : Except FileFault (List UInt8)) (escapes : Failure → Prop) :
    Failure → Prop where
  | malformed {f : Failure} : f.Malformed p → Failing p content escapes f
  | unreadable {fault : FileFault} : content = .error fault →
      Failing p content escapes (.error (unreadable p fault))
  | escape {f : Failure} : escapes f → Failing p content escapes f
  | leftOpen : Failing p content escapes .unmodelled

variable {content : Except FileFault (List UInt8)} {escapes : Failure → Prop}

theorem Escapes.kind (h : Escapes r p content f) : f.kind.isA .config = false := by
  obtain ⟨_, _, _, _, hescape⟩ := h
  exact hescape.kind

theorem Failing.escapes_of_kind (h : Failing p content escapes f)
    (hk : f.kind.isA .config = false) (hopen : f ≠ .unmodelled) : escapes f := by
  cases h with
  | malformed hmalformed =>
    have hconfig := hmalformed.kind
    rw [hk] at hconfig
    cases hconfig
  | @unreadable fault _ =>
    have hconfig := (kind_unreadable p fault).1
    rw [hk] at hconfig
    cases hconfig
  | escape hescape => exact hescape
  | leftOpen => exact absurd rfl hopen

theorem readYaml_error (hformat : Format.ofPath? p = some .yaml) (hcontent : content = .ok bytes)
    (h : readYaml r p bytes = .error f) : Failing p content (Escapes r p content) f := by
  unfold readYaml at h
  split at h
  · rename_i fault hload
    cases h
    by_cases hmalformed : fault = .malformed
    · subst hmalformed
      exact .malformed ⟨_, rfl, rfl, rfl⟩
    by_cases hopen : fault = .unmodelled
    · subst hopen
      exact .leftOpen
    · exact .escape ⟨_, _, hformat, hcontent, .fault hload hmalformed hopen⟩
  · cases h
  · cases h
  · cases h
    exact .malformed ⟨_, rfl, rfl, rfl⟩

theorem readXml_error (hformat : Format.ofPath? p = some .xml) (hcontent : content = .ok bytes)
    (h : readXml r p bytes = .error f) : Failing p content (Escapes r p content) f := by
  unfold readXml at h
  split at h
  · rename_i refusal hparse
    cases h
    by_cases hmalformed : refusal = .malformed
    · subst hmalformed
      exact .malformed ⟨_, rfl, rfl, rfl⟩
    · exact .escape ⟨_, _, hformat, hcontent, .refusal hparse hmalformed⟩
  · rename_i hparse
    split at h
    · rename_i hvalue
      cases h
      exact .escape ⟨_, _, hformat, hcontent, .nameClash hparse hvalue⟩
    · cases h
    · cases h

/-- **A document that cannot be read fails in one of these ways.** -/
theorem document_error (h : document r p content = .error f) :
    Failing p content (Escapes r p content) f := by
  unfold document at h
  split at h
  · cases h
    exact .malformed ⟨_, rfl, rfl, rfl⟩
  · rename_i format hformat
    split at h
    · cases h
      exact .unreadable rfl
    · cases format with
      | yaml => exact readYaml_error hformat rfl h
      | xml => exact readXml_error hformat rfl h

theorem Escapes.document (h : Escapes r p content f) : document r p content = .error f := by
  obtain ⟨format, bytes, hformat, rfl, hescape⟩ := h
  unfold Source.document
  rw [hformat]
  exact hescape.read

theorem document_escapes_iff (hopen : ¬ LeftOpen r p content) :
    (document r p content = .error f ∧ f.kind.isA .config = false) ↔ Escapes r p content f := by
  constructor
  · rintro ⟨h, hk⟩
    refine (document_error h).escapes_of_kind hk ?_
    rintro rfl
    exact hopen h
  · intro h
    exact ⟨h.document, h.kind⟩

theorem read_result (r : Readers) (p : Path) (content : Except FileFault (List UInt8)) :
    (read r p content).result = document r p content := by
  unfold read
  simp only [Logged.result_bind, Logged.silent]
  cases document r p content <;> rfl

end Source

namespace Store

variable {r : Source.Readers} {p : Path} {content : Except FileFault (List UInt8)} {f : Failure}

/-- What getting the contents of a file fails with that is no error about the configuration. -/
inductive ContentsEscape (r : Source.Readers) (p : Path)
    (content : Except FileFault (List UInt8)) : Failure → Prop where
  | reading {f : Failure} : Source.Escapes r p content f → ContentsEscape r p content f
  | title {document : Entries} : Source.document r p content = .ok document →
      Contents.Unwritable document → ContentsEscape r p content .unwritable

theorem ContentsEscape.kind (h : ContentsEscape r p content f) : f.kind.isA .config = false := by
  cases h with
  | reading hescapes => exact hescapes.kind
  | title _ _ => rfl

/-- A document that is no definition is a parsing error about its path, or is given up. -/
theorem ofDocument_error {document : Entries} (h : Contents.ofDocument document p.text = .error f) :
    f.Malformed p ∨ f = .unwritable ∧ Contents.Unwritable document := by
  rcases Contents.ofDocument_cases document p.text with
    ⟨c, hc⟩ | ⟨e, _, _, he, hk, hpath, _⟩ | ⟨hcheck, hgives⟩
  · rw [hc] at h
    cases h
  · rw [he] at h
    cases h
    exact Or.inl ⟨e, rfl, by rw [hk]; rfl, hpath⟩
  · rw [hgives] at h
    cases h
    exact Or.inr ⟨rfl, Contents.check_eq_unwritable_iff.1 hcheck⟩

/-- **A file that does not give its contents fails in the same ways**, or is given up at a title. -/
theorem fileContents_error (h : fileContents r p content = .error f) :
    Source.Failing p content (ContentsEscape r p content) f := by
  rcases bind_eq_error_iff.1 h with hdocument | ⟨document, hdocument, hcontents⟩
  · cases Source.document_error hdocument with
    | malformed hmalformed => exact .malformed hmalformed
    | unreadable hcontent => exact .unreadable hcontent
    | escape hescapes => exact .escape (.reading hescapes)
    | leftOpen => exact .leftOpen
  · rcases ofDocument_error hcontents with hmalformed | ⟨rfl, hgives⟩
    · exact .malformed hmalformed
    · exact .escape (.title hdocument hgives)

/-- Contents are left open only with their document. -/
theorem leftOpen_of_fileContents (h : fileContents r p content = .error .unmodelled) :
    Source.LeftOpen r p content := by
  rcases bind_eq_error_iff.1 h with hdocument | ⟨document, _, hcontents⟩
  · exact hdocument
  · rcases ofDocument_error hcontents with ⟨e, he, _⟩ | ⟨hf, _⟩
    · cases he
    · cases hf

theorem ContentsEscape.fileContents (h : ContentsEscape r p content f) :
    fileContents r p content = .error f := by
  refine bind_eq_error_iff.2 ?_
  cases h with
  | reading hescapes => exact Or.inl hescapes.document
  | title hdocument hgives =>
    exact Or.inr ⟨_, hdocument, Contents.ofDocument_eq_unwritable_iff.2 hgives⟩

theorem contentsEscape_of_fileContents (hopen : ¬ Source.LeftOpen r p content)
    (h : Store.fileContents r p content = .error f) (hk : f.kind.isA .config = false) :
    ContentsEscape r p content f := by
  refine (fileContents_error h).escapes_of_kind hk ?_
  rintro rfl
  exact hopen (leftOpen_of_fileContents h)

end Store

end LibraryCatalogue
