import LibraryCatalogue.Fetch

/-!
# What is bound on the log after a block

A block binds names for the time of its body and removes them afterwards, whether the body came to its
end or raised.  It does not put back what was bound before under these names.  So a block leaves what
is bound as it was exactly when no name that was bound is one of its own, or of a block in it.

* `Work` — bodies made of blocks, one after another and one in another, that may raise and be caught;
* `unbind_bind` — binding is undone by removing, but for the names that are removed;
* `Work.run_eq` — what is bound after some work: what was, without the names of the blocks entered;
* `fetch_boundAfter` — what is bound after a record was fetched;
* `bound_after_blocks` — both, and when they leave what is bound as it was;
* `outer_binding_lost` — a block in another that binds its name again, and a fetch within a block.
-/

namespace LibraryCatalogue

namespace Bindings

/-- The names that are bound. -/
def names (bound : Bindings) : List String := bound.map (·.1)

/-! ## Binding and removing -/

theorem unbind_eq_self_iff {bound : Bindings} {ns : List String} :
    bound.unbind ns = bound ↔ ∀ n ∈ bound.names, n ∉ ns := by
  rw [unbind, List.filter_eq_self]
  simp [names]

theorem unbind_nil (bound : Bindings) : bound.unbind [] = bound :=
  unbind_eq_self_iff.2 fun _ _ => List.not_mem_nil

theorem unbind_congr {ns ms : List String} (h : ∀ n, n ∈ ns ↔ n ∈ ms) (bound : Bindings) :
    bound.unbind ns = bound.unbind ms := by
  simp only [unbind, List.contains_eq_mem, h]

theorem unbind_unbind (bound : Bindings) (ns ms : List String) :
    (bound.unbind ns).unbind ms = bound.unbind (ns ++ ms) := by
  simp only [unbind, List.filter_filter, List.contains_eq_mem, List.mem_append]
  congr 1
  funext e
  by_cases hn : e.1 ∈ ns <;> simp [hn]

theorem unbind_set {n : String} {ns : List String} (h : n ∈ ns) (v : Value) (bound : Bindings) :
    (bound.set n v).unbind ns = bound.unbind ns := by
  induction bound with
  | nil => simp [set, unbind, h]
  | cons e rest ih =>
    obtain ⟨m, w⟩ := e
    rw [set]
    by_cases hm : m = n
    · simp [hm, unbind, h]
    · rw [if_neg (mt beq_iff_eq.1 hm)]
      simp only [unbind, List.filter_cons] at ih ⊢
      rw [ih]

/-- **Binding is undone by removing, but for the names that are removed.** -/
theorem unbind_bind {more : Bindings} {ns : List String} (h : ∀ n ∈ more.names, n ∈ ns)
    (bound : Bindings) : (bound.bind more).unbind ns = bound.unbind ns := by
  induction more generalizing bound with
  | nil => rfl
  | cons e more ih =>
    obtain ⟨n, v⟩ := e
    obtain ⟨hn, hmore⟩ := List.forall_mem_cons.1 h
    exact (ih hmore (bound.set n v)).trans (unbind_set hn v bound)

end Bindings

/-! ## Blocks -/

/-- What is done in and between blocks, as far as it matters for what is bound. -/
inductive Work where
  /-- It has come to its end. -/
  | done
  /-- It raises. -/
  | raise
  /-- A block with a body, and what follows it. -/
  | block (more : Bindings) (body rest : Work)
  /-- Something that may raise and is caught, and what follows it. -/
  | guarded (body rest : Work)

namespace Work

/-- Whether some work raises, and what is bound afterwards. -/
def run : Work → Bindings → Bool × Bindings
  | done, bound => (false, bound)
  | raise, bound => (true, bound)
  | block more body rest, bound =>
    match withBindings more body.run bound with
    | (true, after) => (true, after)
    | (false, after) => rest.run after
  | guarded body rest, bound => rest.run (body.run bound).2

/-- Whether some work raises. -/
def raises : Work → Bool
  | done => false
  | raise => true
  | block _ body rest => body.raises || rest.raises
  | guarded _ rest => rest.raises

/-- The names of the blocks that are entered. -/
def entered : Work → List String
  | done | raise => []
  | block more body rest => more.names ++ body.entered ++ if body.raises then [] else rest.entered
  | guarded body rest => body.entered ++ rest.entered

/-- What is bound after a block, when its body removes what the blocks in it bound. -/
theorem withBindings_eq {more bound : Bindings} {body : Work}
    (h : ∀ b, body.run b = (body.raises, b.unbind body.entered)) :
    withBindings more body.run bound =
      (body.raises, bound.unbind (more.names ++ body.entered)) := by
  have hswap : ∀ n, n ∈ body.entered ++ more.names ↔ n ∈ more.names ++ body.entered := fun n => by
    rw [List.mem_append, List.mem_append, or_comm]
  rw [withBindings, h]
  -- The body removes first, so the names that were bound over are all removed in the end.
  show (_, ((bound.bind more).unbind body.entered).unbind more.names) = _
  rw [Bindings.unbind_unbind, Bindings.unbind_bind fun n hn => List.mem_append_right _ hn,
    Bindings.unbind_congr hswap]

/-- **After some work there is bound what was, without the names of the blocks entered.** -/
theorem run_eq (w : Work) (bound : Bindings) :
    w.run bound = (w.raises, bound.unbind w.entered) := by
  induction w generalizing bound with
  | done => rw [run, raises, entered, Bindings.unbind_nil]
  | raise => rw [run, raises, entered, Bindings.unbind_nil]
  | block more body rest ihbody ihrest =>
    rw [run, withBindings_eq ihbody, raises, entered]
    cases body.raises with
    | true => simp
    | false =>
      show rest.run _ = _
      rw [ihrest, Bindings.unbind_unbind]
      simp
  | guarded body rest ihbody ihrest =>
    rw [run, ihbody, ihrest, Bindings.unbind_unbind, raises, entered]

end Work

/-! ## Fetching -/

/-- What is bound after a record was fetched: what was, without the catalogue if the client was asked. -/
theorem fetch_boundAfter (client : Client) (catalogue : String) (query : Value) (bound : Bindings)
    (d : Logged Definition) :
    (fetch client catalogue query bound d).boundAfter =
      (fetch client catalogue query bound d).request.elim bound
        fun _ => bound.unbind ["catalogue"] := by
  unfold fetch
  simp only
  rcases ((d.andThen (·.askEndpoint catalogue)).within bound).result with f | _ | e
  · rfl
  · rfl
  · exact Bindings.unbind_bind (List.forall_mem_singleton.2 List.mem_cons_self) bound

/-- **What is bound after blocks and fetches.**  A block leaves bound what was, without its own names
and those of the blocks entered in it, whether its body raises or not; and so does all work made of
blocks.  It leaves what is bound as it was exactly when none of these names was bound before.  Fetching a
record is such a block for the catalogue, if the client is asked, whatever the client does. -/
theorem bound_after_blocks (bound : Bindings) :
    (∀ (more : Bindings) (body : Work),
      withBindings more body.run bound =
        (body.raises, bound.unbind (more.names ++ body.entered))) ∧
    (∀ w : Work, w.run bound = (w.raises, bound.unbind w.entered) ∧
      ((w.run bound).2 = bound ↔ ∀ n ∈ bound.names, n ∉ w.entered)) ∧
    ∀ (client : Client) (catalogue : String) (query : Value) (d : Logged Definition),
      let fetched := fetch client catalogue query bound d
      fetched.boundAfter = fetched.request.elim bound (fun _ => bound.unbind ["catalogue"]) ∧
      (fetched.boundAfter = bound ↔ fetched.request = none ∨ "catalogue" ∉ bound.names) := by
  refine ⟨fun more body => Work.withBindings_eq body.run_eq, fun w => ⟨w.run_eq bound, ?_⟩,
    fun client catalogue query d => ⟨fetch_boundAfter client catalogue query bound d, ?_⟩⟩
  · rw [w.run_eq]
    exact Bindings.unbind_eq_self_iff
  · rw [fetch_boundAfter]
    cases (fetch client catalogue query bound d).request with
    | none => simp
    | some r =>
      rw [Option.elim_some, Bindings.unbind_eq_self_iff]
      simp only [List.mem_singleton, reduceCtorEq, false_or]
      exact ⟨fun h hmem => h _ hmem rfl, fun h n hn hname => h (hname ▸ hn)⟩

example : (Work.guarded (.block [("query", .int 1)] (.block [("page", .int 2)] .raise .done) .done)
    (.block [("hits", .int 3)] .done .done)).run [("catalogue", .text "GBV")] =
      (false, [("catalogue", .text "GBV")]) := rfl

/-- A definition with one catalogue. -/
def oneCatalogue : Definition where
  source := "opac.yaml"
  version := 1
  marker := none
  contents :=
    { catalogues := [⟨"GBV", [(.text "title", .text "GBV"),
        (.text "config", .map [(.text "address", .text "sru.gbv.de"), (.text "database", .text "2.1"),
          (.text "port", .int 80)])]⟩],
      doctypes := [] }

/-- **What was bound outside can be lost.**  A block in another that binds the same name removes it,
and so does fetching a record where a catalogue is bound already, whether the client returns or raises. -/
theorem outer_binding_lost :
    (withBindings [("catalogue", .text "KXP")] Work.done.run [("catalogue", .text "GBV")]).2 = [] ∧
    (fetch (fun _ => .ok []) "GBV" .null [("catalogue", .text "KXP")]
      (.silent (.ok oneCatalogue))).boundAfter = [] ∧
    (fetch (fun _ => .error .xml) "GBV" .null [("catalogue", .text "KXP")]
      (.silent (.ok oneCatalogue))).boundAfter = [] :=
  ⟨rfl, List.isEmpty_iff.1 (by decide +kernel), List.isEmpty_iff.1 (by decide +kernel)⟩

end LibraryCatalogue
