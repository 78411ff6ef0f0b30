import LibraryCatalogue.Proofs.Store.Races

/-!
# Every read is paid for

A caller that finds nothing kept, or an old marker, goes behind the lock and looks again before it
loads, because another one may have loaded in the meantime.  So a file is not read more often than
there is a reason for: once at first, once for each time that the path begins to show something else,
and once for each time that the definition is forgotten.

* `Stage.effect`, `Scene.effects` — what the steps of a run do to the definition that is kept;
* `timesForgotten`, `published` — how often it was forgotten, and the definitions that were loaded;
* `Stage.Solvent`, `Stage.Balanced` — how many reads are paid for, by where the caller behind the lock
  is in its call;
* `Stage.Solvent.next`, `Scene.Balanced.go` — a step of a caller uses no more than that.
-/

namespace LibraryCatalogue.Store

/-! ## What steps do -/

/-- What the next step of a caller does to the definition that is kept. -/
def Stage.effect (s : Store) : Stage → Effect
  | .parsed m c => .loaded (s.nextDefinition m c)
  | .clearing => .forgot
  | _ => .nothing

/-- Whether an effect forgets the definition that is kept. -/
def Effect.forgets : Effect → Bool
  | .forgot => true
  | _ => false

namespace Scene

/-- What a move does to the definition that is kept. -/
def effect (s : Scene) : Move → Effect
  | .go i => (s.stage i).effect s.store
  | _ => .nothing

/-- What the moves of a run do to the definition that is kept, one after another. -/
def effects (s : Scene) : List Move → List Effect
  | [] => []
  | move :: rest => s.effect move :: (s.move move).effects rest

end Scene

/-- How often a definition was forgotten. -/
def timesForgotten (es : List Effect) : Nat :=
  es.countP Effect.forgets

/-- The definitions that were loaded, one after another. -/
def published (es : List Effect) : List Definition :=
  es.filterMap Effect.loaded?

theorem mem_published {es : List Effect} {d : Definition} :
    d ∈ published es ↔ .loaded d ∈ es := by
  rw [published, List.mem_filterMap]
  constructor
  · rintro ⟨e, he, hd⟩
    cases e with
    | loaded d' =>
      cases hd
      exact he
    | forgot | nothing => cases hd
  · intro h
    exact ⟨_, h, rfl⟩

theorem timesForgotten_append (es later : List Effect) :
    timesForgotten (es ++ later) = timesForgotten es + timesForgotten later :=
  List.countP_append

theorem published_append (es later : List Effect) :
    published (es ++ later) = published es ++ published later :=
  List.filterMap_append

namespace Stage

/-- A caller without the lock neither loads nor forgets anything. -/
theorem next_of_unlocked {stage : Stage} (h : stage.locked = false) (s : Store) (now : Sight) :
    (stage.next s now).2 = s ∧ stage.effect s = .nothing := by
  cases stage with
  | resting | asked | glanced _ | waiting | forgetting | answered _ => exact ⟨rfl, rfl⟩
  | _ => cases h

/-! ## How many reads are paid for -/

/-- What a store keeps has the marker of the file. -/
def Fresh (s : Store) (now : Sight) : Prop :=
  ∃ d m, s.cached = some d ∧ d.marker = some m ∧ now.marker = .ok m

/-- There are no more reads than are paid for.  One more is free, but only where it led, or is about
to lead, to a definition with the marker of the file; a caller that is about to read must have that
one left. -/
def Solvent (s : Store) (now : Sight) (paid : Nat) : Stage → Prop
  | .loading => s.reads ≤ paid
  | .marked m => s.reads ≤ paid ∧ (now.marker ≠ .ok m → s.reads < paid)
  | .parsed m _ => s.reads ≤ paid + 1 ∧ (now.marker ≠ .ok m → s.reads ≤ paid)
  | .rechecking d =>
    s.cached = some d ∧ s.reads ≤ paid + 1 ∧ (¬ Fresh s now → s.reads ≤ paid)
  | _ => s.reads ≤ paid + 1 ∧ (¬ Fresh s now → s.reads ≤ paid)

/-- The reads that have not led to a definition yet, but will. -/
def pending : Stage → Nat
  | .parsed .. => 1
  | _ => 0

/-- The reads lie between what was loaded and what is paid for. -/
structure Balanced (s : Store) (now : Sight) (loads paid : Nat) (stage : Stage) : Prop where
  loaded : loads + stage.pending ≤ s.reads
  solvent : stage.Solvent s now paid

variable {s : Store} {now : Sight} {loads paid : Nat} {stage : Stage}

theorem Solvent.reads_le (h : stage.Solvent s now paid) : s.reads ≤ paid + 1 := by
  cases stage with
  | loading => exact Nat.le_succ_of_le h
  | marked m => exact Nat.le_succ_of_le h.1
  | rechecking d => exact h.2.1
  | _ => exact h.1

/-- Where a caller without the lock is in its call makes no difference. -/
theorem balanced_of_unlocked (h : stage.locked = false) :
    stage.Balanced s now loads paid ↔ Stage.resting.Balanced s now loads paid := by
  cases stage with
  | resting | asked | glanced _ | waiting | forgetting | answered _ =>
    exact ⟨fun hb => ⟨hb.loaded, hb.solvent⟩, fun hb => ⟨hb.loaded, hb.solvent⟩⟩
  | _ => cases h

theorem not_fresh_of_stale {d : Definition} (hd : s.cached = some d)
    (hstale : (s.isStale d now).result = .ok true) : ¬ Fresh s now := by
  rintro ⟨d', m, hd', hm, hnow⟩
  rw [hd] at hd'
  cases hd'
  simp [isStale, (marker?_eq_some_iff now m).2 hnow, Logged.silent, hm] at hstale

/-- **A step uses no more than is paid for.**  A caller that begins to load found nothing kept, or
another marker than that of the file, behind the lock; a file that is there can be loaded, so that a
read is in vain only where the path has begun to show something else. -/
theorem Solvent.next (h : stage.Solvent s now paid)
    (hloadable : ∀ m, now.marker = .ok m → ∃ c, (s.readContents now).result = .ok c) :
    (stage.next s now).1.Solvent (stage.next s now).2 now
      (paid + timesForgotten [stage.effect s]) := by
  cases stage with
  | resting | waiting | forgetting => exact h
  | asked =>
    rw [Stage.next]
    cases s.cached <;> exact h
  | glanced d =>
    rw [Stage.next]
    rcases (s.isStale d now).result with f | (_ | _) <;> exact h
  | entered =>
    rw [Stage.next]
    cases hc : s.cached with
    | none =>
      refine h.2 ?_
      rintro ⟨d, _, hd, _⟩
      rw [hc] at hd
      cases hd
    | some d => exact ⟨hc, h⟩
  | rechecking d =>
    obtain ⟨hc, hle, hfresh⟩ := h
    rw [Stage.next]
    cases hstale : (s.isStale d now).result with
    | error f => exact ⟨hle, hfresh⟩
    | ok stale =>
      cases stale with
      | false => exact ⟨hle, hfresh⟩
      | true => exact hfresh (not_fresh_of_stale hc hstale)
  | loading =>
    rw [Stage.next]
    cases hm : s.takeMarker now with
    | error f => exact ⟨Nat.le_succ_of_le h, fun _ => h⟩
    | ok m => exact ⟨h, fun hother => absurd ((Scene.takeMarker_eq_ok_iff s now m).1 hm) hother⟩
  | marked m =>
    obtain ⟨hle, hother⟩ := h
    rw [Stage.next]
    cases hr : (s.readContents now).result with
    | ok c => exact ⟨Nat.succ_le_succ hle, hother⟩
    | error f =>
      -- The file has no longer the marker that was taken, for then it could be read.
      have hgone : now.marker ≠ .ok m := by
        intro hm
        obtain ⟨c, hc⟩ := hloadable m hm
        rw [hr] at hc
        cases hc
      exact ⟨Nat.succ_le_succ hle, fun _ => hother hgone⟩
  | parsed m c =>
    obtain ⟨hle, hother⟩ := h
    refine ⟨hle, fun hstale => hother fun hm => hstale ?_⟩
    exact ⟨s.nextDefinition m c, m, rfl, rfl, hm⟩
  | clearing => exact ⟨Nat.le_succ_of_le h.1, fun _ => h.1⟩
  | leaving a | answered a => exact h

/-- What the path begins to show pays for a read. -/
theorem Solvent.change (h : stage.Solvent s now paid) (later : Sight) :
    stage.Solvent s later (paid + 1) := by
  have hle := h.reads_le
  cases stage with
  | loading => exact hle
  | marked m => exact ⟨hle, fun _ => Nat.lt_succ_of_le h.1⟩
  | rechecking d => exact ⟨h.1, Nat.le_succ_of_le hle, fun _ => hle⟩
  | _ => exact ⟨Nat.le_succ_of_le hle, fun _ => hle⟩

theorem Balanced.next (h : stage.Balanced s now loads paid)
    (hloadable : ∀ m, now.marker = .ok m → ∃ c, (s.readContents now).result = .ok c) :
    (stage.next s now).1.Balanced (stage.next s now).2 now
      (loads + (published [stage.effect s]).length) (paid + timesForgotten [stage.effect s]) := by
  refine ⟨?_, h.solvent.next hloadable⟩
  have hle := h.loaded
  cases stage with
  | asked | entered =>
    rw [Stage.next]
    cases s.cached <;> exact hle
  | glanced d | rechecking d =>
    rw [Stage.next]
    rcases (s.isStale d now).result with f | (_ | _) <;> exact hle
  | loading =>
    rw [Stage.next]
    cases s.takeMarker now <;> exact hle
  | marked m =>
    rw [Stage.next]
    cases (s.readContents now).result with
    | error f => exact Nat.le_succ_of_le hle
    | ok c => exact Nat.succ_le_succ hle
  | resting | waiting | parsed _ _ | forgetting | clearing | leaving _ | answered _ => exact hle

end Stage

namespace Scene

/-- Where the caller behind the lock is in its call, if there is one. -/
def inside (s : Scene) : Stage :=
  s.lock.elim .resting s.stage

/-- The reads of a scene lie between what was loaded and what is paid for. -/
def Balanced (s : Scene) (loads paid : Nat) : Prop :=
  s.inside.Balanced s.store s.sight loads paid

/-- A file that is there can be loaded. -/
def Loadable (s : Scene) : Prop :=
  ∀ m, s.sight.marker = .ok m → ∃ c, (s.store.readContents s.sight).result = .ok c

section Balanced

variable {s : Scene} {loads paid : Nat}

/-- **A step of a caller uses no more than is paid for**, whoever is behind the lock. -/
theorem Balanced.go (hs : s.Guarded) (h : s.Balanced loads paid) (hloadable : s.Loadable) (i : Nat) :
    (s.go i).Balanced (loads + (published [s.effect (.go i)]).length)
      (paid + timesForgotten [s.effect (.go i)]) := by
  rw [effect]
  generalize hnext : (s.stage i).next s.store s.sight = next
  have hstep : (s.stage i).Balanced s.store s.sight loads paid →
      next.1.Balanced next.2 s.sight (loads + (published [(s.stage i).effect s.store]).length)
        (paid + timesForgotten [(s.stage i).effect s.store]) := by
    intro hi
    rw [← hnext]
    exact hi.next hloadable
  unfold Scene.go Balanced inside
  simp only [hnext]
  cases hlocked : (s.stage i).locked with
  | true =>
    have hlock : s.lock = some i := (hs i).1 hlocked
    have hafter := hstep (by
      rw [Balanced, inside, hlock] at h
      exact h)
    simp only [Bool.not_true, Bool.false_and, Bool.false_eq_true, if_false, if_true]
    cases hstays : next.1.locked with
    | true =>
      rw [if_pos rfl, Option.elim_some, Function.update_self]
      exact hafter
    | false =>
      rw [if_neg Bool.false_ne_true, Option.elim_none]
      exact (Stage.balanced_of_unlocked hstays).1 hafter
  | false =>
    obtain ⟨hstore, heffect⟩ := Stage.next_of_unlocked hlocked s.store s.sight
    rw [hnext] at hstore
    rw [heffect] at hstep ⊢
    simp only [Bool.not_false, Bool.true_and, Bool.false_eq_true, if_false]
    cases hlock : s.lock with
    | none =>
      rw [Balanced, inside, hlock] at h
      have hafter := hstep ((Stage.balanced_of_unlocked hlocked).2 h)
      simp only [Option.isSome_none, Bool.and_false, Bool.false_eq_true, if_false]
      cases hgets : next.1.locked with
      | true =>
        rw [if_pos rfl, Option.elim_some, Function.update_self]
        exact hafter
      | false =>
        rw [if_neg Bool.false_ne_true, Option.elim_none]
        exact (Stage.balanced_of_unlocked hgets).1 hafter
    | some k =>
      -- Another caller is behind the lock, and stays where it is.
      have hother : k ≠ i := by
        rintro rfl
        rw [(hs k).2 hlock] at hlocked
        cases hlocked
      rw [Balanced, inside, hlock] at h
      cases hwaits : next.1.locked with
      | true =>
        simp only [Option.isSome_some, Bool.and_true, if_true, hlock]
        exact h
      | false =>
        simp only [Bool.false_and, Bool.false_eq_true, if_false, Option.elim_some, hstore]
        rw [Function.update_of_ne hother]
        exact h

end Balanced

end Scene

end LibraryCatalogue.Store
