import LibraryCatalogue.Proofs.Store.Bookkeeping
import Mathlib.Logic.Function.Iterate

/-!
# Many callers of one store

A store may have many callers at a time.  Each of them goes through a call step by step, and between
two of its steps the others may go on, and anything may happen to the file.  A step is one access to
what all of them share: to the definition that is kept, to the marker of the file, to its contents,
or to the lock, which is held while a definition is loaded or forgotten.

* `Stage`, `Stage.next` — where a caller is in its call, and its next step;
* `Scene`, `Move`, `Scene.move`, `Scene.play` — the store, its path and its callers, and a run of
  all of them together;
* `Scene.store_move`, `Scene.stage_move` — all that a move can do to the store and to a caller;
* `Scene.Guarded`, `Scene.guarded_play` — only one caller at a time is behind the lock;
* `Stage.alone_turn`, `Scene.play_alone` — a call that nothing interrupts is a turn.
-/

namespace LibraryCatalogue.Store

/-! ## The steps of a call -/

/-- Where a caller is in its call. -/
inductive Stage where
  /-- It has called for nothing yet. -/
  | resting
  /-- It asks for the definition. -/
  | asked
  /-- It saw that this definition is kept, and is about to look at the marker. -/
  | glanced (d : Definition)
  /-- It has to load the definition, and waits for the lock. -/
  | waiting
  /-- It got the lock. -/
  | entered
  /-- It saw, behind the lock, that this definition is kept. -/
  | rechecking (d : Definition)
  /-- It begins to load. -/
  | loading
  /-- It took the marker, and is about to read. -/
  | marked (m : Marker)
  /-- It read these contents, and is about to publish them. -/
  | parsed (m : Marker) (c : Contents)
  /-- It wants the definition forgotten, and waits for the lock. -/
  | forgetting
  /-- It got the lock, and is about to forget the definition. -/
  | clearing
  /-- It knows the answer, and is about to release the lock. -/
  | leaving (a : Answer)
  /-- It has the answer. -/
  | answered (a : Answer)

namespace Stage

/-- The first stage of a call. -/
def ofCall : Call → Stage
  | .get | .tryGet => .asked
  | .invalidate => .forgetting

/-- A caller that may call: no call of it is going on. -/
def free : Stage → Bool
  | .resting | .answered _ => true
  | _ => false

/-- A caller that holds the lock. -/
def locked : Stage → Bool
  | .entered | .rechecking _ | .loading | .marked _ | .parsed .. | .clearing | .leaving _ => true
  | _ => false

/-- The definition that a caller was handed. -/
def definition? : Stage → Option Definition
  | .answered (.definition d) => some d
  | _ => none

/-- Where a caller is after it compared the marker of a kept definition: it has to go on, or is done
with the definition, or with the refusal of the system. -/
def compared (d : Definition) (again : Stage) (done : Answer → Stage) : Except Failure Bool → Stage
  | .error f => done (.failure f)
  | .ok false => done (.definition d)
  | .ok true => again

/-- Where a caller behind the lock is after an access to the file: it goes on with what it got, or
leaves with the failure. -/
def accessed {α : Type} (goOn : α → Stage) : Except Failure α → Stage
  | .error f => .leaving (.failure f)
  | .ok x => goOn x

/-- The next step of a call, while the path shows `now`: where the caller is after it, and the store
that it leaves. -/
def next (s : Store) (now : Sight) : Stage → Stage × Store
  | .resting => (.resting, s)
  | .asked => (s.cached.elim .waiting .glanced, s)
  | .glanced d => (compared d .waiting .answered (s.isStale d now).result, s)
  | .waiting => (.entered, s)
  | .entered => (s.cached.elim .loading .rechecking, s)
  | .rechecking d => (compared d .loading .leaving (s.isStale d now).result, s)
  | .loading => (accessed .marked (s.takeMarker now), s)
  | .marked m => (accessed (.parsed m) (s.readContents now).result, s.countRead)
  | .parsed m c => (.leaving (.definition (s.nextDefinition m c)), s.publish m c)
  | .forgetting => (.clearing, s)
  | .clearing => (.leaving .nothing, s.invalidate.2)
  | .leaving a => (.answered a, s)
  | .answered a => (.answered a, s)

theorem definition?_eq_some_iff {stage : Stage} {d : Definition} :
    stage.definition? = some d ↔ stage = .answered (.definition d) := by
  cases stage with
  | answered a => cases a <;> simp [definition?]
  | _ => simp [definition?]

theorem locked_of_free {stage : Stage} (h : stage.free = true) : stage.locked = false := by
  cases stage with
  | resting | answered _ => rfl
  | _ => cases h

theorem locked_ofCall (c : Call) : (ofCall c).locked = false := by
  cases c <;> rfl

theorem next_settings (s : Store) (now : Sight) (stage : Stage) :
    SameSettings (stage.next s now).2 s := by
  cases stage <;> exact ⟨rfl, rfl, rfl⟩

end Stage

/-! ## Scenes -/

/-- A store with its path and its callers. -/
structure Scene where
  store : Store
  sight : Sight
  /-- What the path showed before, the latest first. -/
  past : List Sight
  stage : Nat → Stage
  /-- The caller that holds the lock. -/
  lock : Option Nat

/-- What may happen next. -/
inductive Move where
  /-- A caller makes a call, unless it is in the middle of one. -/
  | call (i : Nat) (c : Call)
  /-- A caller takes the next step of its call, unless it has to wait for the lock. -/
  | go (i : Nat)
  /-- The path begins to show something else. -/
  | change (now : Sight)

/-- What the path begins to show with a move. -/
def Move.change? : Move → Option Sight
  | .change now => some now
  | _ => none

/-- All that the path begins to show in a run, one after another. -/
def changes (moves : List Move) : List Sight :=
  moves.filterMap Move.change?

namespace Scene

/-- A new store for a path, and callers that have called for nothing yet. -/
def start (p : Path) (fallback : Bool) (first : Sight) : Scene :=
  ⟨ofPath p fallback, first, [], fun _ => .resting, none⟩

/-- All that the path ever showed, the latest first. -/
def history (s : Scene) : List Sight :=
  s.sight :: s.past

/-- The scene after a caller made a call. -/
def call (s : Scene) (i : Nat) (c : Call) : Scene :=
  if (s.stage i).free then { s with stage := Function.update s.stage i (.ofCall c) } else s

/-- The scene after a caller took its next step. -/
def go (s : Scene) (i : Nat) : Scene :=
  let next := (s.stage i).next s.store s.sight
  if !(s.stage i).locked && next.1.locked && s.lock.isSome then s
  else
    { s with
      store := next.2
      stage := Function.update s.stage i next.1
      lock :=
        if next.1.locked then some i
        else if (s.stage i).locked then none
        else s.lock }

/-- The scene after a move. -/
def move (s : Scene) : Move → Scene
  | .call i c => s.call i c
  | .go i => s.go i
  | .change now => { s with sight := now, past := s.history }

/-- The scene after a run of moves. -/
def play (s : Scene) (moves : List Move) : Scene :=
  moves.foldl move s

theorem play_cons (s : Scene) (move : Move) (rest : List Move) :
    s.play (move :: rest) = (s.move move).play rest := rfl

theorem play_append (s : Scene) (moves later : List Move) :
    s.play (moves ++ later) = (s.play moves).play later := List.foldl_append

/-! ## What a move does -/

/-- A step of a caller happens, or it has to wait for the lock. -/
theorem go_cases (s : Scene) (i : Nat) :
    s.go i = s ∨
      ((s.go i).store = ((s.stage i).next s.store s.sight).2 ∧
        (s.go i).stage = Function.update s.stage i ((s.stage i).next s.store s.sight).1 ∧
        (s.go i).sight = s.sight ∧ (s.go i).past = s.past) := by
  unfold go
  dsimp only
  split
  · exact Or.inl rfl
  · exact Or.inr ⟨rfl, rfl, rfl, rfl⟩

theorem call_cases (s : Scene) (i : Nat) (c : Call) :
    s.call i c = s ∨
      s.call i c = { s with stage := Function.update s.stage i (.ofCall c) } := by
  unfold call
  split
  · exact Or.inr rfl
  · exact Or.inl rfl

/-- After a move the store is what it was, or what a step of some caller made of it. -/
theorem store_move (s : Scene) (move : Move) :
    (s.move move).store = s.store ∨
      ∃ i, (s.move move).store = ((s.stage i).next s.store s.sight).2 := by
  cases move with
  | change now => exact Or.inl rfl
  | call i c =>
    refine Or.inl ?_
    rw [Scene.move]
    rcases call_cases s i c with hidle | hcalled
    · rw [hidle]
    · rw [hcalled]
  | go i =>
    rw [Scene.move]
    rcases go_cases s i with hidle | ⟨hstore, _⟩
    · exact Or.inl (by rw [hidle])
    · exact Or.inr ⟨i, hstore⟩

/-- After a move a caller is where it was, or it has made a call, or taken its next step. -/
theorem stage_move (s : Scene) (move : Move) (i : Nat) :
    (s.move move).stage i = s.stage i ∨ (∃ c, (s.move move).stage i = .ofCall c) ∨
      (s.move move).stage i = ((s.stage i).next s.store s.sight).1 := by
  cases move with
  | change now => exact Or.inl rfl
  | call j c =>
    rw [Scene.move]
    rcases call_cases s j c with hidle | hcalled
    · exact Or.inl (by rw [hidle])
    · rw [hcalled]
      by_cases hij : i = j
      · subst hij
        exact Or.inr (Or.inl ⟨c, Function.update_self i _ _⟩)
      · exact Or.inl (Function.update_of_ne hij _ _)
  | go j =>
    rw [Scene.move]
    rcases go_cases s j with hidle | ⟨_, hstage, _⟩
    · exact Or.inl (by rw [hidle])
    · rw [hstage]
      by_cases hij : i = j
      · subst hij
        exact Or.inr (Or.inr (Function.update_self i _ _))
      · exact Or.inl (Function.update_of_ne hij _ _)

/-! ## The lock -/

/-- Only the caller that holds the lock is behind it. -/
def Guarded (s : Scene) : Prop :=
  ∀ i, (s.stage i).locked = true ↔ s.lock = some i

theorem guarded_call {s : Scene} (hs : s.Guarded) (i : Nat) (c : Call) : (s.call i c).Guarded := by
  unfold call
  split
  · rename_i hfree
    intro j
    dsimp only
    by_cases hj : j = i
    · subst hj
      rw [Function.update_self, ← hs j, Stage.locked_of_free hfree, Stage.locked_ofCall]
    · rw [Function.update_of_ne hj]
      exact hs j
  · exact hs

theorem lock_of_go {s : Scene} (hs : s.Guarded) {i j : Nat} (hj : j ≠ i) {after : Stage}
    (hpasses : ¬ (!(s.stage i).locked && after.locked && s.lock.isSome) = true) :
    (if after.locked then some i else if (s.stage i).locked then none else s.lock) = some j ↔
      s.lock = some j := by
  have hi := hs i
  have hother : some i ≠ some j := fun h => hj (Option.some.inj h).symm
  by_cases hbefore : (s.stage i).locked = true
  · -- It held the lock, so nobody else does, now or then.
    rw [if_pos hbefore, hi.1 hbefore]
    split
    · exact Iff.rfl
    · exact ⟨fun h => (Option.some_ne_none j h.symm).elim, fun h => absurd h hother⟩
  · rw [if_neg hbefore]
    split
    · rename_i hafter
      -- It got the lock, so that was free.
      have hfree : s.lock = none := by
        cases hl : s.lock with
        | none => rfl
        | some k => simp [hbefore, hafter, hl] at hpasses
      rw [hfree]
      exact ⟨fun h => absurd h hother, fun h => (Option.some_ne_none j h.symm).elim⟩
    · exact Iff.rfl

theorem guarded_go {s : Scene} (hs : s.Guarded) (i : Nat) : (s.go i).Guarded := by
  unfold go
  dsimp only
  split
  · exact hs
  · rename_i hpasses
    intro j
    dsimp only
    by_cases hj : j = i
    · subst hj
      rw [Function.update_self]
      split
      · rename_i hafter
        exact ⟨fun _ => rfl, fun _ => hafter⟩
      · rename_i hafter
        split
        · exact ⟨fun h => absurd h hafter, fun h => (Option.some_ne_none j h.symm).elim⟩
        · rename_i hbefore
          exact ⟨fun h => absurd h hafter, fun h => absurd ((hs j).2 h) hbefore⟩
    · rw [Function.update_of_ne hj, lock_of_go hs hj hpasses]
      exact hs j

theorem guarded_move {s : Scene} (hs : s.Guarded) (move : Move) : (s.move move).Guarded := by
  cases move with
  | call i c => exact guarded_call hs i c
  | go i => exact guarded_go hs i
  | change now => exact hs

/-- **At any time only the caller that holds the lock is behind it.** -/
theorem guarded_play (p : Path) (fallback : Bool) (first : Sight) (moves : List Move) :
    ((start p fallback first).play moves).Guarded := by
  refine List.foldlRecOn moves move ?_ fun s hs step _ => guarded_move hs step
  intro i
  constructor <;> intro h <;> cases h

end Scene

/-! ## Calls that nothing interrupts -/

namespace Stage

/-- A step of a caller that is alone, while the path shows `now`. -/
def alone (now : Sight) (q : Stage × Store) : Stage × Store :=
  q.1.next q.2 now

theorem alone_succ (now : Sight) (n : Nat) (stage : Stage) (s : Store) :
    (alone now)^[n + 1] (stage, s) = (alone now)^[n] (stage.next s now) := rfl

theorem alone_answered (now : Sight) (n : Nat) (a : Answer) (s : Store) :
    (alone now)^[n] (.answered a, s) = (.answered a, s) :=
  Function.iterate_fixed rfl n

theorem alone_loading (now : Sight) (s : Store) :
    (alone now)^[4] (.loading, s) =
      (.answered (.ofResult (s.load now).1.result), (s.load now).2) := by
  rw [alone_succ, next]
  cases hm : s.takeMarker now with
  | error f =>
    rw [accessed, alone_succ, next, alone_answered]
    simp only [load, hm, Logged.silent, Answer.ofResult]
  | ok m =>
    rw [accessed, alone_succ, next]
    cases hr : (s.readContents now).result with
    | error f =>
      rw [accessed, alone_succ, next, alone_answered]
      simp only [load, hm, hr, Answer.ofResult]
    | ok c =>
      rw [accessed, alone_succ, next, alone_succ, next, alone_answered]
      simp only [load, hm, hr, Answer.ofResult]
      rfl

theorem alone_asked (now : Sight) (s : Store) :
    (alone now)^[9] (.asked, s) =
      (.answered (.ofResult (s.get now).1.result), (s.get now).2) := by
  rw [alone_succ, next]
  cases hc : s.cached with
  | none =>
    rw [Option.elim_none, alone_succ, next, alone_succ, next, hc, Option.elim_none]
    -- Four of the six steps that are left are the load.
    rw [Function.iterate_add_apply _ 2 4, alone_loading, alone_answered]
    simp only [get, hc]
  | some d =>
    rw [Option.elim_some, alone_succ, next]
    cases hstale : (s.isStale d now).result with
    | error f =>
      rw [compared, alone_answered]
      simp only [get, hc, hstale, Answer.ofResult]
    | ok stale =>
      cases stale with
      | false =>
        rw [compared, alone_answered]
        simp only [get, hc, hstale, Answer.ofResult]
      | true =>
        rw [compared, alone_succ, next, alone_succ, next, hc, Option.elim_some]
        rw [alone_succ, next, hstale, compared, alone_loading]
        simp only [get, hc, hstale]

/-- **Nine steps of a caller that is alone are a turn**: what many callers go through step by step is
what a single one is answered at once. -/
theorem alone_turn (now : Sight) (s : Store) (c : Call) :
    (alone now)^[9] (ofCall c, s) = (.answered (s.answer ⟨c, now⟩), s.turn ⟨c, now⟩) := by
  cases c with
  | get =>
    simp only [ofCall, answer_get, turn]
    exact alone_asked now s
  | tryGet =>
    simp only [ofCall, answer_tryGet, turn, tryGet_store]
    exact alone_asked now s
  | invalidate =>
    simp only [ofCall, answer, turn]
    rw [alone_succ, next, alone_succ, next, alone_succ, next, alone_answered]

end Stage

namespace Scene

/-- A caller steps without waiting where nobody else is behind the lock. -/
theorem go_of_alone {s : Scene} {i : Nat} (hs : s.Guarded)
    (hlock : s.lock = none ∨ s.lock = some i) :
    (((s.go i).stage i, (s.go i).store) = Stage.alone s.sight (s.stage i, s.store)) ∧
      (s.go i).sight = s.sight ∧ ((s.go i).lock = none ∨ (s.go i).lock = some i) := by
  have hpasses : ¬ (!(s.stage i).locked && ((s.stage i).next s.store s.sight).1.locked &&
      s.lock.isSome) = true := by
    rcases hlock with hlock | hlock
    · simp [hlock]
    · simp [(hs i).2 hlock]
  unfold go
  dsimp only
  rw [if_neg hpasses]
  refine ⟨?_, rfl, ?_⟩
  · dsimp only
    rw [Function.update_self, Stage.alone]
  · dsimp only
    split
    · exact Or.inr rfl
    · split
      · exact Or.inl rfl
      · exact hlock

theorem play_replicate {s : Scene} {i : Nat} (hs : s.Guarded)
    (hlock : s.lock = none ∨ s.lock = some i) (n : Nat) :
    ((s.play (List.replicate n (.go i))).stage i, (s.play (List.replicate n (.go i))).store) =
      (Stage.alone s.sight)^[n] (s.stage i, s.store) := by
  induction n generalizing s with
  | zero => rfl
  | succ n ih =>
    obtain ⟨hstep, hsight, hlock'⟩ := go_of_alone hs hlock
    rw [List.replicate_succ, play_cons, Function.iterate_succ_apply, ← hstep, ← hsight]
    exact ih (guarded_go hs i) hlock'

/-- **A call that nothing interrupts is a turn**, whatever the other callers are in the middle of, as
long as none of them is behind the lock. -/
theorem play_alone {s : Scene} {i : Nat} (hs : s.Guarded) (hfree : (s.stage i).free = true)
    (hlock : s.lock = none) (c : Call) :
    let after := (s.move (.call i c)).play (List.replicate 9 (.go i))
    after.stage i = .answered (s.store.answer ⟨c, s.sight⟩) ∧
      after.store = s.store.turn ⟨c, s.sight⟩ := by
  have hcalled : s.call i c = { s with stage := Function.update s.stage i (.ofCall c) } :=
    if_pos hfree
  have hguarded := guarded_call hs i c
  rw [hcalled] at hguarded
  have hsteps := play_replicate (i := i) hguarded (Or.inl hlock) 9
  dsimp only at hsteps
  rw [Function.update_self, Stage.alone_turn, ← hcalled] at hsteps
  exact Prod.mk.inj hsteps

end Scene

end LibraryCatalogue.Store
