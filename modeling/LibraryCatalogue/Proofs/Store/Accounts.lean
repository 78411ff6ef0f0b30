import LibraryCatalogue.Proofs.Store.Charges

/-!
# The accounts of many callers

What is read is paid for, and what is handed out was loaded: both are kept by every move of many
callers, as long as a file that is there can be loaded.

* `Scene.Explained`, `Scene.Carries` — what callers are handed was loaded, and a failure has its
  reason;
* `Scene.Accounts`, `Accounts.move`, `Accounts.play` — the invariant, kept by every move and every
  run;
* `timesForgotten_of_quiet` — nothing is forgotten where nobody asks for it;
* `Stage.left`, `Scene.exists_go` — callers do not wait for each other for good;
* `reads_paid` — all of it together.
-/

namespace LibraryCatalogue.Store

namespace Scene

/-! ## What callers are handed -/

/-- An answer has its reason: the definition was loaded, or there was no file at some time, or the
definition was forgotten. -/
def Explained (s : Scene) (es : List Effect) : Answer → Prop
  | .definition d => .loaded d ∈ es
  | .failure _ => ∃ x ∈ s.history, ∀ m, x.marker ≠ .ok m
  | .nothing => .forgot ∈ es

/-- What a caller carries with it was loaded, and its answer has a reason. -/
def Carries (s : Scene) (es : List Effect) : Stage → Prop
  | .glanced d | .rechecking d => .loaded d ∈ es
  | .leaving a | .answered a => s.Explained es a
  | _ => True

/-- The books of a scene: what was read is paid for, and what is kept or handed out was loaded. -/
structure Accounts (s : Scene) (es : List Effect) (changed : Nat) : Prop where
  guarded : s.Guarded
  balanced : s.Balanced (published es).length (timesForgotten es + changed)
  kept : ∀ d, s.store.cached = some d → .loaded d ∈ es
  carried : ∀ i, s.Carries es (s.stage i)

section Explained

variable {s s' : Scene} {es es' : List Effect}

theorem Explained.mono {a : Answer} (h : s.Explained es a) (hes : es ⊆ es')
    (hpast : s.history ⊆ s'.history) : s'.Explained es' a := by
  cases a with
  | definition d => exact hes h
  | failure f =>
    obtain ⟨x, hx, hgone⟩ := h
    exact ⟨x, hpast hx, hgone⟩
  | nothing => exact hes h

theorem Carries.mono {stage : Stage} (h : s.Carries es stage) (hes : es ⊆ es')
    (hpast : s.history ⊆ s'.history) : s'.Carries es' stage := by
  cases stage with
  | glanced d | rechecking d => exact hes h
  | leaving a | answered a => exact Explained.mono h hes hpast
  | _ => trivial

theorem carries_compared {d : Definition} {again : Stage} {done : Answer → Stage}
    (hd : .loaded d ∈ es) (hagain : s.Carries es again)
    (hdone : ∀ a, s.Explained es a → s.Carries es (done a)) :
    s.Carries es (Stage.compared d again done (s.store.isStale d s.sight).result) := by
  cases hstale : (s.store.isStale d s.sight).result with
  | error f =>
    refine hdone _ ⟨s.sight, List.mem_cons_self, ?_⟩
    intro m hm
    simp [isStale, (marker?_eq_some_iff s.sight m).2 hm, Logged.silent] at hstale
  | ok stale =>
    cases stale with
    | false => exact hdone (.definition d) hd
    | true => exact hagain

/-- **A step hands on what was loaded, and fails only for want of a file.** -/
theorem Carries.next {stage : Stage} (h : s.Carries es stage) (hloadable : s.Loadable)
    (hkept : ∀ d, s.store.cached = some d → .loaded d ∈ es) :
    s.Carries (es ++ [stage.effect s.store]) (stage.next s.store s.sight).1 ∧
      ∀ d, (stage.next s.store s.sight).2.cached = some d →
        .loaded d ∈ es ++ [stage.effect s.store] := by
  have hold : es ⊆ es ++ [stage.effect s.store] := List.subset_append_left _ _
  have hkept' : ∀ d, s.store.cached = some d → .loaded d ∈ es ++ [stage.effect s.store] :=
    fun d hd => hold (hkept d hd)
  have h' : s.Carries (es ++ [stage.effect s.store]) stage := h.mono hold fun _ hx => hx
  have hgone : ∀ f, (∀ m, s.sight.marker ≠ .ok m) →
      s.Explained (es ++ [stage.effect s.store]) (.failure f) :=
    fun f hm => ⟨s.sight, List.mem_cons_self, hm⟩
  cases stage with
  | resting | waiting | forgetting => exact ⟨trivial, hkept'⟩
  | asked | entered =>
    refine ⟨?_, hkept'⟩
    rw [Stage.next]
    cases hc : s.store.cached with
    | none => trivial
    | some d => exact hkept' d hc
  | glanced d | rechecking d => exact ⟨carries_compared h' trivial fun _ ha => ha, hkept'⟩
  | loading =>
    refine ⟨?_, hkept'⟩
    rw [Stage.next]
    cases hm : s.store.takeMarker s.sight with
    | ok m => trivial
    | error f =>
      refine hgone f fun m hmarker => ?_
      rw [(takeMarker_eq_ok_iff s.store s.sight m).2 hmarker] at hm
      cases hm
  | marked m =>
    refine ⟨?_, hkept'⟩
    rw [Stage.next]
    cases hr : (s.store.readContents s.sight).result with
    | ok c => trivial
    | error f =>
      refine hgone f fun m' hmarker => ?_
      obtain ⟨c, hc⟩ := hloadable m' hmarker
      rw [hr] at hc
      cases hc
  | parsed m c =>
    have hnew : .loaded (s.store.nextDefinition m c) ∈
        es ++ [(Stage.parsed m c).effect s.store] := by
      simp [Stage.effect]
    refine ⟨hnew, ?_⟩
    rintro d ⟨⟩
    exact hnew
  | clearing =>
    refine ⟨?_, fun d hd => (Option.some_ne_none d hd.symm).elim⟩
    simp [Stage.next, Carries, Explained, Stage.effect]
  | leaving a | answered a => exact ⟨h', hkept'⟩

end Explained

section Accounts

variable {s : Scene} {es : List Effect} {changed : Nat}

theorem inside_call (hs : s.Guarded) (i : Nat) (c : Call) : (s.call i c).inside = s.inside := by
  unfold call inside
  split
  · rename_i hfree
    cases hlock : s.lock with
    | none => rfl
    | some k =>
      have hother : k ≠ i := by
        rintro rfl
        have hlocked := (hs k).2 hlock
        rw [Stage.locked_of_free hfree] at hlocked
        cases hlocked
      exact Function.update_of_ne hother _ _
  · rfl

theorem Accounts.call (h : s.Accounts es changed) (i : Nat) (c : Call) :
    (s.call i c).Accounts es changed := by
  have hinside := inside_call h.guarded i c
  have hguarded := guarded_call h.guarded i c
  rcases call_cases s i c with hidle | hcalled
  · rw [hidle]
    exact h
  · rw [hcalled] at hinside hguarded ⊢
    refine ⟨hguarded, ?_, h.kept, ?_⟩
    · unfold Balanced
      rw [hinside]
      exact h.balanced
    · intro j
      by_cases hj : j = i
      · subst hj
        dsimp only
        rw [Function.update_self]
        cases c <;> trivial
      · dsimp only
        rw [Function.update_of_ne hj]
        exact (h.carried j).mono (fun _ he => he) fun _ hx => hx

theorem Accounts.go (h : s.Accounts es changed) (hloadable : s.Loadable) (i : Nat) :
    (s.go i).Accounts (es ++ [s.effect (.go i)]) changed := by
  have hold : es ⊆ es ++ [s.effect (.go i)] := List.subset_append_left _ _
  obtain ⟨hcarries, hkept⟩ := (h.carried i).next hloadable h.kept
  refine ⟨guarded_go h.guarded i, ?_, ?_, ?_⟩
  · have hbalanced := h.balanced.go h.guarded hloadable i
    rw [published_append, timesForgotten_append, List.length_append]
    rwa [Nat.add_right_comm] at hbalanced
  · rcases go_cases s i with hidle | ⟨hstore, _⟩
    · rw [hidle]
      exact fun d hd => hold (h.kept d hd)
    · rw [hstore]
      exact hkept
  · intro j
    rcases go_cases s i with hidle | ⟨_, hstage, hsight, hpast⟩
    · rw [hidle]
      exact (h.carried j).mono hold fun _ hx => hx
    · have hhistory : s.history ⊆ (s.go i).history := by
        rw [history, history, hsight, hpast]
        exact fun _ hx => hx
      rw [hstage]
      by_cases hj : j = i
      · subst hj
        rw [Function.update_self]
        exact hcarries.mono (fun _ he => he) hhistory
      · rw [Function.update_of_ne hj]
        exact (h.carried j).mono hold hhistory

theorem Accounts.change (h : s.Accounts es changed) (now : Sight) :
    (s.move (.change now)).Accounts es (changed + 1) where
  guarded := h.guarded
  balanced := ⟨h.balanced.loaded, h.balanced.solvent.change now⟩
  kept := h.kept
  carried i := (h.carried i).mono (fun _ he => he) fun _ hx => List.mem_cons_of_mem now hx

/-- An effect that does nothing is not entered into the books. -/
theorem Accounts.nothing (h : s.Accounts es changed) : s.Accounts (es ++ [.nothing]) changed where
  guarded := h.guarded
  balanced := by
    rw [published_append, timesForgotten_append, List.length_append]
    exact h.balanced
  kept d hd := List.mem_append_left _ (h.kept d hd)
  carried i := (h.carried i).mono (List.subset_append_left _ _) fun _ hx => hx

/-- **Every move keeps the books**; a change of what the path shows pays for a read. -/
theorem Accounts.move (h : s.Accounts es changed) (hloadable : s.Loadable) (move : Move) :
    (s.move move).Accounts (es ++ [s.effect move]) (changed + (changes [move]).length) := by
  cases move with
  | call i c => exact (h.call i c).nothing
  | go i => exact h.go hloadable i
  | change now => exact (h.change now).nothing

end Accounts

end Scene

/-! ## Runs -/

/-- A file can be loaded, if one is there. -/
def CanLoad (p : Path) (fallback : Bool) (now : Sight) : Prop :=
  ∀ m, now.marker = .ok m → ∃ c, FileHolds p fallback now c

namespace Scene

variable {s : Scene} {es : List Effect} {changed : Nat}

theorem loadable_of_canLoad (hreaders : s.store.readers = .standard)
    (h : CanLoad s.store.path s.store.fallbackToEmpty s.sight) : s.Loadable := by
  intro m hm
  obtain ⟨c, hc⟩ := h m hm
  refine ⟨c, ?_⟩
  unfold FileHolds at hc
  rw [parseContents_result] at hc
  rw [readContents_result, hreaders]
  exact readResult_eq_ok_iff.2 hc

theorem settings_move (s : Scene) (move : Move) : SameSettings (s.move move).store s.store := by
  rcases store_move s move with hstore | ⟨i, hstore⟩
  · rw [hstore]
    exact .refl s.store
  · rw [hstore]
    exact (s.stage i).next_settings s.store s.sight

theorem changes_cons (move : Move) (rest : List Move) :
    changes (move :: rest) = changes [move] ++ changes rest := by
  rw [← List.singleton_append, changes, List.filterMap_append]
  rfl

theorem sight_move (s : Scene) (move : Move) :
    (s.move move).sight ∈ s.sight :: changes [move] := by
  have houtlook := congrArg Outlook.sight (outlook_move s move)
  cases move with
  | change now => exact List.mem_cons_of_mem _ List.mem_cons_self
  | call i c | go i =>
    rw [show (s.move _).sight = s.sight from houtlook]
    exact List.mem_cons_self

/-- **Every run keeps the books**, as long as every file that the path shows can be loaded. -/
theorem Accounts.play (h : s.Accounts es changed) (moves : List Move)
    (hreaders : s.store.readers = .standard)
    (hload : ∀ x ∈ s.sight :: changes moves,
      CanLoad s.store.path s.store.fallbackToEmpty x) :
    (s.play moves).Accounts (es ++ s.effects moves) (changed + (changes moves).length) := by
  induction moves generalizing s es changed with
  | nil =>
    rw [effects, List.append_nil]
    exact h
  | cons move rest ih =>
    rw [changes_cons] at hload ⊢
    obtain ⟨hpath, hfallback, hsame⟩ := settings_move s move
    have hmoved := h.move (loadable_of_canLoad hreaders (hload _ List.mem_cons_self)) move
    have hrest := ih hmoved (hsame.trans hreaders) fun x hx => by
      rw [hpath, hfallback]
      apply hload
      rcases List.mem_cons.1 hx with rfl | hx
      · rcases List.mem_cons.1 (sight_move s move) with hsame | hnew
        · rw [hsame]
          exact List.mem_cons_self
        · exact List.mem_cons_of_mem _ (List.mem_append_left _ hnew)
      · exact List.mem_cons_of_mem _ (List.mem_append_right _ hx)
    rwa [List.append_assoc, List.singleton_append, Nat.add_assoc, ← List.length_append] at hrest

theorem accounts_start (p : Path) (fallback : Bool) (first : Sight) :
    (start p fallback first).Accounts [] 0 where
  guarded := guarded_play p fallback first []
  balanced := ⟨Nat.le_refl 0, Nat.zero_le 1, fun _ => Nat.le_refl 0⟩
  kept d hd := (Option.some_ne_none d hd.symm).elim
  carried _ := trivial

theorem mem_history_play {p : Path} {fallback : Bool} {first x : Sight} {moves : List Move} :
    x ∈ ((start p fallback first).play moves).history ↔ x ∈ first :: changes moves := by
  have hfold : ∀ (later : List Sight) (o : Outlook),
      x ∈ (later.foldl Outlook.change o).sight :: (later.foldl Outlook.change o).past ↔
        x ∈ later ∨ x ∈ o.sight :: o.past := by
    intro later
    induction later with
    | nil => simp
    | cons now rest ih =>
      intro o
      rw [List.foldl_cons, ih]
      simp [Outlook.change, or_assoc, or_left_comm]
  have houtlook := outlook_play (start p fallback first) moves
  have hplay := hfold (changes moves) (start p fallback first).outlook
  rw [← houtlook] at hplay
  show x ∈ _ :: _ ↔ _
  refine hplay.trans ?_
  simp [start, outlook, or_comm]

end Scene

/-! ## Runs in which nothing is forgotten -/

namespace Stage

/-- A caller that wants the definition forgotten. -/
def wantsForgotten : Stage → Bool
  | .forgetting | .clearing => true
  | _ => false

/-- A caller that asks for the definition does not come to want it forgotten. -/
theorem wantsForgotten_next {stage : Stage} (h : stage.wantsForgotten = false) (s : Store)
    (now : Sight) :
    (stage.next s now).1.wantsForgotten = false ∧ (stage.effect s).forgets = false := by
  cases stage with
  | resting | waiting | parsed _ _ | leaving _ | answered _ => exact ⟨rfl, rfl⟩
  | asked | entered =>
    rw [Stage.next]
    cases s.cached <;> exact ⟨rfl, rfl⟩
  | glanced d | rechecking d =>
    rw [Stage.next]
    rcases (s.isStale d now).result with f | (_ | _) <;> exact ⟨rfl, rfl⟩
  | loading =>
    rw [Stage.next]
    cases s.takeMarker now <;> exact ⟨rfl, rfl⟩
  | marked m =>
    rw [Stage.next]
    cases (s.readContents now).result <;> exact ⟨rfl, rfl⟩
  | forgetting | clearing => cases h

end Stage

namespace Scene

variable {s : Scene}

theorem wantsForgotten_move {move : Move} (hquiet : ∀ i, move ≠ .call i .invalidate)
    (hs : ∀ i, (s.stage i).wantsForgotten = false) :
    (∀ i, ((s.move move).stage i).wantsForgotten = false) ∧ (s.effect move).forgets = false := by
  cases move with
  | change now => exact ⟨hs, rfl⟩
  | call i c =>
    refine ⟨fun j => ?_, rfl⟩
    rw [Scene.move]
    rcases call_cases s i c with hidle | hcalled
    · rw [hidle]
      exact hs j
    · rw [hcalled]
      by_cases hj : j = i
      · subst hj
        dsimp only
        rw [Function.update_self]
        cases c with
        | get | tryGet => rfl
        | invalidate => exact absurd rfl (hquiet j)
      · dsimp only
        rw [Function.update_of_ne hj]
        exact hs j
  | go i =>
    obtain ⟨hnext, heffect⟩ := Stage.wantsForgotten_next (hs i) s.store s.sight
    refine ⟨fun j => ?_, heffect⟩
    rw [Scene.move]
    rcases go_cases s i with hidle | ⟨_, hstage, _⟩
    · rw [hidle]
      exact hs j
    · rw [hstage]
      by_cases hj : j = i
      · subst hj
        rw [Function.update_self]
        exact hnext
      · rw [Function.update_of_ne hj]
        exact hs j

/-- **Nothing is forgotten where nobody asks for it.** -/
theorem timesForgotten_of_quiet {moves : List Move}
    (hquiet : ∀ i, Move.call i .invalidate ∉ moves)
    (hs : ∀ i, (s.stage i).wantsForgotten = false) : timesForgotten (s.effects moves) = 0 := by
  induction moves generalizing s with
  | nil => rfl
  | cons move rest ih =>
    have hmove : ∀ i, move ≠ .call i .invalidate :=
      fun i h => hquiet i (h ▸ List.mem_cons_self)
    obtain ⟨hstages, heffect⟩ := wantsForgotten_move hmove hs
    have hrest := ih (fun i h => hquiet i (List.mem_cons_of_mem move h)) hstages
    rw [effects, timesForgotten, List.countP_cons_of_neg (by simp [heffect])]
    exact hrest

end Scene

/-! ## Going on -/

namespace Stage

/-- How many steps a call takes at most from here on. -/
def left : Stage → Nat
  | .resting | .answered _ => 0
  | .leaving _ => 1
  | .parsed .. | .clearing => 2
  | .marked _ | .forgetting => 3
  | .loading => 4
  | .rechecking _ => 5
  | .entered => 6
  | .waiting => 7
  | .glanced _ => 8
  | .asked => 9

/-- Every step brings a call nearer to its end. -/
theorem left_next {stage : Stage} (h : stage.free = false) (s : Store) (now : Sight) :
    (stage.next s now).1.left < stage.left := by
  cases stage with
  | resting | answered _ => cases h
  | asked | entered =>
    rw [Stage.next]
    cases s.cached <;> simp [left]
  | glanced d | rechecking d =>
    rw [Stage.next]
    rcases (s.isStale d now).result with f | (_ | _) <;> simp [left, compared]
  | loading =>
    rw [Stage.next]
    cases s.takeMarker now <;> simp [left, accessed]
  | marked m =>
    rw [Stage.next]
    cases (s.readContents now).result <;> simp [left, accessed]
  | waiting | parsed _ _ | forgetting | clearing | leaving _ => simp [Stage.next, left]

end Stage

namespace Scene

theorem left_go {s : Scene} {i : Nat} (hfree : (s.stage i).free = false)
    (hpasses : (s.stage i).locked = true ∨ s.lock = none) :
    ((s.go i).stage i).left < (s.stage i).left := by
  have hgo : ¬ (!(s.stage i).locked && ((s.stage i).next s.store s.sight).1.locked &&
      s.lock.isSome) = true := by
    rcases hpasses with h | h <;> simp [h]
  unfold go
  dsimp only
  rw [if_neg hgo]
  dsimp only
  rw [Function.update_self]
  exact Stage.left_next hfree s.store s.sight

/-- **Where a call is going on, some caller can go on**: the one behind the lock, or else any. -/
theorem exists_go {s : Scene} (hs : s.Guarded) {i : Nat} (hfree : (s.stage i).free = false) :
    ∃ j, ((s.go j).stage j).left < (s.stage j).left := by
  cases hlock : s.lock with
  | none => exact ⟨i, left_go hfree (Or.inr hlock)⟩
  | some k =>
    have hlocked := (hs k).2 hlock
    refine ⟨k, left_go ?_ (Or.inl hlocked)⟩
    cases hk : (s.stage k).free with
    | false => rfl
    | true =>
      rw [Stage.locked_of_free hk] at hlocked
      cases hlocked

end Scene

/-- **Every read is paid for.**  Many callers share a store, and the path begins to show something else
whenever it may; only that a file which is there can be loaded.  At any time the file was read at least
as often as a definition was loaded, and at most once more than the path began to show something else
and the definition was forgotten, which happens only where it is asked for.  Whatever a caller was
handed had been loaded, and a call fails only if there was no file at some time.  Where nothing changes
and nothing is forgotten, the file has been read exactly once as soon as one call is answered, and all
are answered with the one definition that was loaded.  Where a call is going on, some caller can take a
step, which brings its call nearer to the end. -/
theorem reads_paid (p : Path) (fallback : Bool) (first : Sight) (moves : List Move)
    (hload : ∀ x ∈ first :: changes moves, CanLoad p fallback x) :
    let start := Scene.start p fallback first
    let s := start.play moves
    let es := start.effects moves
    ((published es).length ≤ s.store.reads ∧
      s.store.reads ≤ 1 + timesForgotten es + (changes moves).length) ∧
    ((∀ i, Move.call i .invalidate ∉ moves) → timesForgotten es = 0) ∧
    (∀ i d, s.stage i = .answered (.definition d) → d ∈ published es) ∧
    (∀ i f, s.stage i = .answered (.failure f) →
      ∃ x ∈ first :: changes moves, ∀ m, x.marker ≠ .ok m) ∧
    (changes moves = [] → (∃ m, first.marker = .ok m) → timesForgotten es = 0 →
      ∀ i a, s.stage i = .answered a →
        s.store.reads = 1 ∧ ∃ d, a = .definition d ∧ published es = [d]) ∧
    ∀ i, (s.stage i).free = false → ∃ j, ((s.go j).stage j).left < (s.stage j).left := by
  intro start s es
  have haccounts : s.Accounts es (changes moves).length := by
    have hplay := (Scene.accounts_start p fallback first).play moves rfl hload
    rwa [List.nil_append, Nat.zero_add] at hplay
  have hloaded : (published es).length ≤ s.store.reads :=
    Nat.le_trans (Nat.le_add_right _ _) haccounts.balanced.loaded
  have hpaid : s.store.reads ≤ 1 + timesForgotten es + (changes moves).length := by
    have hle := haccounts.balanced.solvent.reads_le
    omega
  have hdefinition : ∀ i d, s.stage i = .answered (.definition d) → d ∈ published es := by
    intro i d hd
    have hcarried := haccounts.carried i
    rw [hd] at hcarried
    exact mem_published.2 hcarried
  have hfailure : ∀ i f, s.stage i = .answered (.failure f) →
      ∃ x ∈ first :: changes moves, ∀ m, x.marker ≠ .ok m := by
    intro i f hf
    have hcarried := haccounts.carried i
    rw [hf] at hcarried
    obtain ⟨x, hx, hgone⟩ := hcarried
    exact ⟨x, Scene.mem_history_play.1 hx, hgone⟩
  refine ⟨⟨hloaded, hpaid⟩, ?_, hdefinition, hfailure, ?_, fun i => Scene.exists_go haccounts.guarded⟩
  · exact fun hquiet => Scene.timesForgotten_of_quiet hquiet fun _ => rfl
  · rintro hchanges ⟨m, hm⟩ hforgotten i a ha
    rw [hforgotten, hchanges] at hpaid
    cases a with
    | definition d =>
      have hmem := hdefinition i d ha
      have hpositive := List.length_pos_of_mem hmem
      obtain ⟨d', hd'⟩ := List.length_eq_one_iff.1 (show (published es).length = 1 by
        simp only [List.length_nil] at hpaid
        omega)
      rw [hd', List.mem_singleton] at hmem
      subst hmem
      simp only [List.length_nil] at hpaid
      exact ⟨by omega, d, rfl, hd'⟩
    | failure f =>
      obtain ⟨x, hx, hgone⟩ := hfailure i f ha
      rw [hchanges, List.mem_singleton] at hx
      subst hx
      exact absurd hm (hgone m)
    | nothing =>
      have hcarried := haccounts.carried i
      rw [ha] at hcarried
      have hpositive : 0 < timesForgotten es := List.countP_pos_iff.2 ⟨_, hcarried, rfl⟩
      omega

/-- Two callers find nothing kept; one of them loads, and the other finds what that one loaded. -/
def rush : List Move :=
  [.call 0 .get, .call 1 .tryGet, .go 0, .go 1, .go 0, .go 1] ++ List.replicate 5 (.go 0) ++
    List.replicate 4 (.go 1)

/-- The file is written again and asked for, and then the definition is forgotten and asked for. -/
def renewal : List Move :=
  [.change { wholeFile with marker := .ok ⟨2, 23⟩ }, .call 0 .get] ++ List.replicate 9 (.go 0) ++
    [.call 1 .invalidate] ++ List.replicate 3 (.go 1) ++ [.call 0 .get] ++ List.replicate 9 (.go 0)

/-- Both callers are handed the definition of the one read, and after that all that is paid for is
read. -/
theorem reads_paid_rush :
    let start := Scene.start (Path.ofText "opac.yaml") false wholeFile
    ((start.play rush).store.reads = 1 ∧
      ∃ d, (start.play rush).stage 0 = .answered (.definition d) ∧
        (start.play rush).stage 1 = .answered (.definition d)) ∧
    (start.play (rush ++ renewal)).store.reads = 3 ∧
    1 + timesForgotten (start.effects (rush ++ renewal)) +
      (changes (rush ++ renewal)).length = 3 := by
  intro start
  have hload : CanLoad (Path.ofText "opac.yaml") false wholeFile := by
    have hparses :
        ((ofPath (Path.ofText "opac.yaml") false).parseContents wholeFile).result.toOption.isSome := by
      decide +kernel
    obtain ⟨c, hc⟩ := Option.isSome_iff_exists.1 hparses
    exact fun _ _ => ⟨c, Or.inl (Results.toOption_eq_some_iff.1 hc)⟩
  obtain ⟨_, hasked, _, _, hone, _⟩ := reads_paid (Path.ofText "opac.yaml") false wholeFile rush
    (List.forall_mem_singleton.2 hload)
  have hquiet : timesForgotten (start.effects rush) = 0 := by
    refine hasked fun i hi => ?_
    simp [rush] at hi
  have hanswered : ∀ i ∈ [0, 1], ∃ d, (start.play rush).stage i = .answered (.definition d) := by
    have hsome : ∀ i ∈ [0, 1], ((start.play rush).stage i).definition?.isSome = true := by
      decide +kernel
    intro i hi
    obtain ⟨d, hd⟩ := Option.isSome_iff_exists.1 (hsome i hi)
    exact ⟨d, Stage.definition?_eq_some_iff.1 hd⟩
  have hsame := hone rfl ⟨⟨1, 23⟩, rfl⟩ hquiet
  refine ⟨?_, by decide +kernel, by decide +kernel⟩
  generalize start.play rush = s at *
  obtain ⟨d, hd⟩ := hanswered 0 (by simp)
  obtain ⟨d', hd'⟩ := hanswered 1 (by simp)
  obtain ⟨hreads, _, heq, hpublished⟩ := hsame 0 _ hd
  obtain ⟨_, _, heq', hpublished'⟩ := hsame 1 _ hd'
  rw [← Answer.definition.inj heq] at hpublished
  rw [← Answer.definition.inj heq', hpublished] at hpublished'
  rw [← (List.cons.inj hpublished').1] at hd'
  exact ⟨hreads, d, hd, hd'⟩

end LibraryCatalogue.Store
