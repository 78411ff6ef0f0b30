import LibraryCatalogue.Proofs.Store.Callers

/-!
# No definition outlives its file

The file may be written again while a store loads it, between the look at the marker and the reading.
What was read then is kept under a marker that the file has no more, so the next caller loads it
again, as long as no marker ever comes back.  Were the marker taken last, old contents would be kept
under the new marker for good.

* `FileHolds` — the contents that a store has to find in a file;
* `Outlook` — what the definitions of a scene are measured by;
* `Outlook.Timely`, `Scene.Sound` — the invariant: what is kept, or carried by a caller, holds what
  the file holds, should its marker be the one that the file has;
* `Scene.Sound.move`, `Scene.Sound.play` — every move keeps it, and so does every run;
* `Outlook.OnTheWay`, `Scene.gives_of_call` — a call while the file stays as it is;
* `kept_is_current` — both together.
-/

namespace LibraryCatalogue.Store

/-! ## Contents of a file -/

/-- The contents that a store has to find in a file: those that are there, or none if they are
malformed and that counts as empty. -/
def FileHolds (p : Path) (fallback : Bool) (now : Sight) (c : Contents) : Prop :=
  let parsed := ((ofPath p fallback).parseContents now).result
  parsed = .ok c ∨
    (fallback = true ∧ c = .empty ∧ ∃ e, parsed = .error (.error e) ∧ e.kind.isA .parse = true)

theorem fileHolds_of_readResult {p : Path} {fallback : Bool} {now : Sight} {c : Contents}
    (h : readResult .standard p fallback now.content = .ok c) : FileHolds p fallback now c := by
  unfold FileHolds
  rw [parseContents_result]
  exact readResult_eq_ok_iff.1 h

/-! ## Outlooks -/

/-- What the definitions of a scene are measured by: the settings of the store, and what the path
shows and ever showed. -/
structure Outlook where
  path : Path
  fallbackToEmpty : Bool
  readers : Source.Readers
  sight : Sight
  past : List Sight

namespace Outlook

/-- What a load reads now. -/
def current (o : Outlook) : Except Failure Contents :=
  readResult o.readers o.path o.fallbackToEmpty o.sight.content

/-- The file had this marker at some time. -/
def Shown (o : Outlook) (m : Marker) : Prop :=
  ∃ x ∈ o.sight :: o.past, x.marker = .ok m

/-- Contents stand for a marker: if the file has it now, it holds them. -/
def Stands (o : Outlook) (m : Marker) (c : Contents) : Prop :=
  o.Shown m ∧ (o.sight.marker = .ok m → o.current = .ok c)

/-- A definition stands for its marker. -/
def Timely (o : Outlook) (d : Definition) : Prop :=
  ∃ m, d.marker = some m ∧ o.Stands m d.contents

/-- What a caller carries with it stands for its marker. -/
def InTime (o : Outlook) : Stage → Prop
  | .glanced d | .rechecking d => o.Timely d
  | .marked m => o.Shown m
  | .parsed m c => o.Stands m c
  | .leaving a | .answered a => ∀ d, a = .definition d → o.Timely d
  | _ => True

/-- What is seen once the path shows something else. -/
def change (o : Outlook) (now : Sight) : Outlook :=
  { o with sight := now, past := o.sight :: o.past }

/-- What the path shows is new: if there is a file, it has a marker that it never had before. -/
def New (o : Outlook) (now : Sight) : Prop :=
  ∀ m, now.marker = .ok m → ¬ o.Shown m

theorem settings_changes (o : Outlook) (sights : List Sight) :
    (sights.foldl change o).path = o.path ∧
      (sights.foldl change o).fallbackToEmpty = o.fallbackToEmpty ∧
      (sights.foldl change o).readers = o.readers := by
  induction sights generalizing o with
  | nil => exact ⟨rfl, rfl, rfl⟩
  | cons now rest ih => exact ih (o.change now)

variable {o : Outlook}

theorem Shown.change {m : Marker} (h : o.Shown m) (now : Sight) : (o.change now).Shown m := by
  obtain ⟨x, hx, hm⟩ := h
  exact ⟨x, List.mem_cons_of_mem now hx, hm⟩

theorem Stands.change {m : Marker} {c : Contents} (h : o.Stands m c) {now : Sight}
    (hnew : o.New now) : (o.change now).Stands m c := by
  refine ⟨h.1.change now, ?_⟩
  intro hm
  -- A marker that was shown before is not the one of the new file.
  exact absurd h.1 (hnew m hm)

theorem Timely.change {d : Definition} (h : o.Timely d) {now : Sight} (hnew : o.New now) :
    (o.change now).Timely d := by
  obtain ⟨m, hm, hstands⟩ := h
  exact ⟨m, hm, hstands.change hnew⟩

theorem InTime.change {stage : Stage} (h : o.InTime stage) {now : Sight} (hnew : o.New now) :
    (o.change now).InTime stage := by
  cases stage with
  | glanced d => exact Timely.change h hnew
  | rechecking d => exact Timely.change h hnew
  | marked m => exact Shown.change h now
  | parsed m c => exact Stands.change h hnew
  | leaving a => exact fun d hd => (h d hd).change hnew
  | answered a => exact fun d hd => (h d hd).change hnew
  | resting | asked | waiting | entered | loading | forgetting | clearing => trivial

end Outlook

/-! ## The invariant -/

namespace Scene

/-- What the definitions of a scene are measured by. -/
def outlook (s : Scene) : Outlook :=
  ⟨s.store.path, s.store.fallbackToEmpty, s.store.readers, s.sight, s.past⟩

/-- What is kept stands for its marker, and so does what any caller carries with it. -/
structure Sound (s : Scene) : Prop where
  kept : ∀ d, s.store.cached = some d → s.outlook.Timely d
  carried : ∀ i, s.outlook.InTime (s.stage i)

theorem outlook_go (s : Scene) (i : Nat) : (s.go i).outlook = s.outlook := by
  rcases go_cases s i with hidle | ⟨hstore, _, hsight, hpast⟩
  · rw [hidle]
  · obtain ⟨hpath, hfallback, hreaders⟩ := (s.stage i).next_settings s.store s.sight
    simp only [outlook, hstore, hsight, hpast, hpath, hfallback, hreaders]

theorem outlook_call (s : Scene) (i : Nat) (c : Call) : (s.call i c).outlook = s.outlook := by
  rcases call_cases s i c with hidle | hcalled
  · rw [hidle]
  · rw [hcalled]
    rfl

theorem outlook_move (s : Scene) (move : Move) :
    (s.move move).outlook = move.change?.elim s.outlook s.outlook.change := by
  cases move with
  | call i c => exact outlook_call s i c
  | go i => exact outlook_go s i
  | change now => rfl

theorem outlook_play (s : Scene) (moves : List Move) :
    (s.play moves).outlook = (changes moves).foldl Outlook.change s.outlook := by
  induction moves generalizing s with
  | nil => rfl
  | cons move rest ih =>
    rw [play_cons, ih, outlook_move, changes, changes, List.filterMap_cons]
    cases move.change? <;> rfl

theorem sight_play (s : Scene) (moves : List Move) :
    (s.play moves).sight = ((changes moves).foldl Outlook.change s.outlook).sight := by
  rw [← outlook_play]
  rfl

theorem sight_of_quiet (s : Scene) {moves : List Move} (hquiet : changes moves = []) :
    (s.play moves).sight = s.sight := by
  rw [sight_play, hquiet]
  rfl

theorem takeMarker_eq_ok_iff (s : Store) (now : Sight) (m : Marker) :
    s.takeMarker now = .ok m ↔ now.marker = .ok m := by
  rw [← marker?_eq_some_iff]
  unfold takeMarker
  cases now.marker? with
  | error f => simp
  | ok m? => cases m? <;> simp

variable {s : Scene}

theorem readContents_eq_current (s : Scene) :
    (s.store.readContents s.sight).result = s.outlook.current :=
  readContents_result s.store s.sight

theorem Sound.elim_cached (hs : s.Sound) {absent : Stage} {present : Definition → Stage}
    (habsent : s.outlook.InTime absent)
    (hpresent : ∀ d, s.outlook.Timely d → s.outlook.InTime (present d)) :
    s.outlook.InTime (s.store.cached.elim absent present) := by
  cases hc : s.store.cached with
  | none => exact habsent
  | some d => exact hpresent d (hs.kept d hc)

theorem inTime_compared {d : Definition} {again : Stage} {done : Answer → Stage}
    (r : Except Failure Bool) (hd : s.outlook.Timely d) (hagain : s.outlook.InTime again)
    (hdone : ∀ a, (∀ d, a = .definition d → s.outlook.Timely d) → s.outlook.InTime (done a)) :
    s.outlook.InTime (Stage.compared d again done r) := by
  rcases r with f | (_ | _)
  · exact hdone _ fun d hd => by cases hd
  · exact hdone _ fun d' hd' => by cases hd'; exact hd
  · exact hagain

/-- **What a step does to what is carried and kept.**  The marker is taken first: whatever is read
later stands for it. -/
theorem Sound.next (hs : s.Sound) {stage : Stage} (h : s.outlook.InTime stage) :
    s.outlook.InTime (stage.next s.store s.sight).1 ∧
      ∀ d, (stage.next s.store s.sight).2.cached = some d → s.outlook.Timely d := by
  cases stage with
  | resting | waiting | forgetting => exact ⟨trivial, hs.kept⟩
  | asked => exact ⟨hs.elim_cached trivial fun _ hd => hd, hs.kept⟩
  | entered => exact ⟨hs.elim_cached trivial fun _ hd => hd, hs.kept⟩
  | glanced d => exact ⟨inTime_compared _ h trivial fun _ ha => ha, hs.kept⟩
  | rechecking d => exact ⟨inTime_compared _ h trivial fun _ ha => ha, hs.kept⟩
  | loading =>
    refine ⟨?_, hs.kept⟩
    unfold Stage.next
    cases hm : s.store.takeMarker s.sight with
    | error f => exact fun d hd => by cases hd
    | ok m => exact ⟨s.sight, List.mem_cons_self, (takeMarker_eq_ok_iff _ _ _).1 hm⟩
  | marked m =>
    refine ⟨?_, hs.kept⟩
    unfold Stage.next
    cases hr : (s.store.readContents s.sight).result with
    | error f => exact fun d hd => by cases hd
    | ok c =>
      -- The marker was shown; if it is the one that the file has now, this is what the file holds.
      refine ⟨h, fun _ => ?_⟩
      rw [← readContents_eq_current, hr]
  | parsed m c =>
    have hnew : s.outlook.Timely (s.store.nextDefinition m c) := ⟨m, rfl, h⟩
    constructor
    · rintro d ⟨⟩
      exact hnew
    · rintro d ⟨⟩
      exact hnew
  | clearing => constructor <;> intro d hd <;> cases hd
  | leaving a | answered a => exact ⟨h, hs.kept⟩

/-- **Every move keeps the invariant**, a change of the file too: what is kept or carried then has an
old marker, and stands for it. -/
theorem Sound.move (hs : s.Sound) {move : Move}
    (hnew : ∀ now, move.change? = some now → s.outlook.New now) : (s.move move).Sound := by
  have hkept : ∀ d, (s.move move).store.cached = some d → s.outlook.Timely d := by
    rcases store_move s move with hstore | ⟨i, hstore⟩
    · rw [hstore]
      exact hs.kept
    · rw [hstore]
      exact (hs.next (hs.carried i)).2
  have hcarried : ∀ i, s.outlook.InTime ((s.move move).stage i) := by
    intro i
    rcases stage_move s move i with hstage | ⟨c, hstage⟩ | hstage
    · rw [hstage]
      exact hs.carried i
    · rw [hstage]
      cases c <;> trivial
    · rw [hstage]
      exact (hs.next (hs.carried i)).1
  have houtlook := outlook_move s move
  cases hc : move.change? with
  | none =>
    rw [hc, Option.elim_none] at houtlook
    rw [← houtlook] at hkept hcarried
    exact ⟨hkept, hcarried⟩
  | some now =>
    rw [hc, Option.elim_some] at houtlook
    constructor
    · intro d hd
      rw [houtlook]
      exact (hkept d hd).change (hnew now hc)
    · intro i
      rw [houtlook]
      exact (hcarried i).change (hnew now hc)

end Scene

/-! ## Runs -/

/-- No marker ever comes back: every file that is put in the place of another has a marker that the
path did not show before. -/
def NewMarkers (sights : List Sight) : Prop :=
  sights.Pairwise fun earlier later => ∀ m, later.marker = .ok m → earlier.marker ≠ .ok m

namespace Scene

variable {s : Scene}

/-- **Every run keeps the invariant**, as long as no marker comes back. -/
theorem Sound.play (hs : s.Sound) {moves : List Move} (hnew : NewMarkers (changes moves))
    (hold : ∀ now ∈ changes moves, s.outlook.New now) : (s.play moves).Sound := by
  induction moves generalizing s with
  | nil => exact hs
  | cons move rest ih =>
    rw [play_cons]
    cases hc : move.change? with
    | none =>
      have hchanges : changes (move :: rest) = changes rest := List.filterMap_cons_none hc
      rw [hchanges] at hnew hold
      refine ih (hs.move fun now hnow => ?_) hnew ?_
      · rw [hc] at hnow
        cases hnow
      · rw [outlook_move, hc]
        exact hold
    | some now =>
      have hchanges : changes (move :: rest) = now :: changes rest := List.filterMap_cons_some hc
      rw [hchanges] at hnew hold
      obtain ⟨hfirst, hrest⟩ := List.pairwise_cons.1 hnew
      refine ih (hs.move fun now' hnow => ?_) hrest ?_
      · rw [hc] at hnow
        cases hnow
        exact hold now List.mem_cons_self
      · rw [outlook_move, hc]
        -- A later file has neither the marker of this one nor one from before.
        rintro later hlater m hm ⟨x, hx, hxm⟩
        rcases List.mem_cons.1 hx with rfl | hx
        · exact hfirst later hlater m hm hxm
        · exact hold later (List.mem_cons_of_mem now hlater) m hm ⟨x, hx, hxm⟩

theorem sound_of_start (p : Path) (fallback : Bool) (first : Sight) {moves : List Move}
    (hnew : NewMarkers (first :: changes moves)) : ((start p fallback first).play moves).Sound := by
  obtain ⟨hfirst, hrest⟩ := List.pairwise_cons.1 hnew
  have hstart : (start p fallback first).Sound :=
    ⟨fun _ hd => (Option.some_ne_none _ hd.symm).elim, fun _ => trivial⟩
  refine hstart.play hrest ?_
  rintro later hlater m hm ⟨x, hx, hxm⟩
  rw [List.mem_singleton.1 hx] at hxm
  exact hfirst later hlater m hm hxm

/-- What a load reads is a matter of the settings that the store was made with. -/
theorem current_of_start (p : Path) (fallback : Bool) (first : Sight) (moves : List Move) :
    ((start p fallback first).play moves).outlook.current =
      readResult .standard p fallback ((start p fallback first).play moves).sight.content := by
  have hsettings := (start p fallback first).outlook.settings_changes (changes moves)
  rw [← outlook_play] at hsettings
  rw [Outlook.current, hsettings.1, hsettings.2.1, hsettings.2.2]
  rfl

end Scene

/-! ## Calls while the file stays as it is -/

namespace Outlook

variable {o : Outlook} {m : Marker}

/-- An answer is the one that the file gives. -/
def Gives (o : Outlook) (m : Marker) : Answer → Prop
  | .definition d => d.marker = some m ∧ o.current = .ok d.contents
  | .failure f => o.current = .error f
  | .nothing => True

/-- A caller whose call began since the file has this marker is on the way to the right answer. -/
def OnTheWay (o : Outlook) (m : Marker) : Stage → Prop
  | .marked m' => m' = m
  | .parsed m' c => m' = m ∧ o.current = .ok c
  | .leaving a | .answered a => o.Gives m a
  | _ => True

end Outlook

namespace Scene

variable {s : Scene} {m : Marker}

theorem onTheWay_compared {d : Definition} {again : Stage} {done : Answer → Stage}
    (hm : s.sight.marker = .ok m) (hd : s.outlook.Timely d) (hagain : s.outlook.OnTheWay m again)
    (hdone : ∀ a, s.outlook.Gives m a → s.outlook.OnTheWay m (done a)) :
    s.outlook.OnTheWay m (Stage.compared d again done (s.store.isStale d s.sight).result) := by
  have hstale : (s.store.isStale d s.sight).result = .ok (some m != d.marker) := by
    simp only [isStale, (marker?_eq_some_iff s.sight m).2 hm, Logged.silent]
  rw [hstale]
  obtain ⟨m', hm', hstands⟩ := hd
  by_cases hsame : m' = m
  · subst hsame
    rw [hm', bne_self_eq_false]
    exact hdone _ ⟨hm', hstands.2 hm⟩
  · have hother : (some m != d.marker) = true := by
      rw [hm', bne_iff_ne]
      exact fun h => hsame (Option.some.inj h).symm
    rw [hother]
    exact hagain

/-- **A step of a caller leads on to the right answer** while the file stays as it is. -/
theorem onTheWay_next (hm : s.sight.marker = .ok m) {stage : Stage}
    (hin : s.outlook.InTime stage) (h : s.outlook.OnTheWay m stage) :
    s.outlook.OnTheWay m (stage.next s.store s.sight).1 := by
  cases stage with
  | resting | waiting | forgetting | clearing => trivial
  | asked =>
    unfold Stage.next
    cases s.store.cached <;> trivial
  | entered =>
    unfold Stage.next
    cases s.store.cached <;> trivial
  | glanced d => exact onTheWay_compared hm hin trivial fun _ ha => ha
  | rechecking d => exact onTheWay_compared hm hin trivial fun _ ha => ha
  | loading =>
    unfold Stage.next
    rw [(takeMarker_eq_ok_iff s.store s.sight m).2 hm]
    rfl
  | marked m' =>
    unfold Stage.next
    cases hr : (s.store.readContents s.sight).result with
    | error f => exact (readContents_eq_current s).symm.trans hr
    | ok c => exact ⟨h, (readContents_eq_current s).symm.trans hr⟩
  | parsed m' c =>
    obtain ⟨rfl, hc⟩ := h
    exact ⟨rfl, hc⟩
  | leaving a | answered a => exact h

theorem onTheWay_play (hs : s.Sound) (hm : s.sight.marker = .ok m) {i : Nat}
    (h : s.outlook.OnTheWay m (s.stage i)) {moves : List Move} (hquiet : changes moves = []) :
    s.outlook.OnTheWay m ((s.play moves).stage i) := by
  rw [changes, List.filterMap_eq_nil_iff] at hquiet
  induction moves generalizing s with
  | nil => exact h
  | cons move rest ih =>
    have hc := hquiet move List.mem_cons_self
    have hrest : ∀ later ∈ rest, later.change? = none :=
      fun later hlater => hquiet later (List.mem_cons_of_mem move hlater)
    have hsame : (s.move move).outlook = s.outlook := by
      rw [outlook_move, hc, Option.elim_none]
    have hs' : (s.move move).Sound := by
      refine hs.move fun now hnow => ?_
      rw [hc] at hnow
      cases hnow
    have hm' : (s.move move).sight.marker = .ok m := (congrArg (·.sight.marker) hsame).trans hm
    rw [play_cons, ← hsame]
    refine ih hs' hm' ?_ hrest
    rw [hsame]
    rcases stage_move s move i with hstage | ⟨c, hstage⟩ | hstage
    · rw [hstage]
      exact h
    · rw [hstage]
      cases c <;> trivial
    · rw [hstage]
      exact onTheWay_next hm (hs.carried i) h

/-- **A call that begins while the file is there gets the right answer**, if the file stays as it is
until then. -/
theorem gives_of_call (hs : s.Sound) (hm : s.sight.marker = .ok m) {i : Nat}
    (hfree : (s.stage i).free = true) {c : Call} {later : List Move} (hquiet : changes later = [])
    {a : Answer} (ha : ((s.move (.call i c)).play later).stage i = .answered a) :
    s.outlook.Gives m a := by
  have hsame : (s.move (.call i c)).outlook = s.outlook := outlook_call s i c
  have hbegun : s.outlook.OnTheWay m ((s.move (.call i c)).stage i) := by
    rw [Scene.move, Scene.call, if_pos hfree]
    dsimp only
    rw [Function.update_self]
    cases c <;> trivial
  have hcalled : (s.move (.call i c)).Sound := hs.move fun now hnow => by cases hnow
  have hm' : (s.move (.call i c)).sight.marker = .ok m :=
    (congrArg (·.sight.marker) hsame).trans hm
  rw [← hsame] at hbegun
  have hafter := onTheWay_play hcalled hm' hbegun hquiet
  rw [ha, hsame] at hafter
  exact hafter

end Scene

/-- **No definition outlives its file.**  Many callers share a store, and the file is written again
whenever it may be, in the middle of a load too, each time with a marker that it never had before.
At any time: if the definition that is kept has the marker of the file, it holds what the file holds.
A call that begins while the file is there, and during which it is not written again, hands out no
other definition than that of the file, with its marker, and fails only with the failure that the
file gives. -/
theorem kept_is_current (p : Path) (fallback : Bool) (first : Sight) (moves : List Move)
    (hnew : NewMarkers (first :: changes moves)) :
    let s := (Scene.start p fallback first).play moves
    (∀ d m, s.store.cached = some d → d.marker = some m → s.sight.marker = .ok m →
      FileHolds p fallback s.sight d.contents) ∧
    ∀ i c m later, (s.stage i).free = true → s.sight.marker = .ok m → changes later = [] →
      let after := (s.move (.call i c)).play later
      (∀ d, after.stage i = .answered (.definition d) →
        d.marker = some m ∧ FileHolds p fallback s.sight d.contents) ∧
      (∀ f, after.stage i = .answered (.failure f) →
        ((ofPath p fallback).readContents s.sight).result = .error f) := by
  intro s
  have hs : s.Sound := Scene.sound_of_start p fallback first hnew
  have hcurrent : s.outlook.current = readResult .standard p fallback s.sight.content :=
    Scene.current_of_start p fallback first moves
  constructor
  · intro d m hd hdm hm
    obtain ⟨m', hm', _, hstands⟩ := hs.kept d hd
    rw [hdm] at hm'
    cases hm'
    exact fileHolds_of_readResult (hcurrent.symm.trans (hstands hm))
  · intro i c m later hfree hm hquiet after
    constructor
    · intro d hd
      obtain ⟨hdm, hcontents⟩ := Scene.gives_of_call hs hm hfree hquiet hd
      exact ⟨hdm, fileHolds_of_readResult (hcurrent.symm.trans hcontents)⟩
    · intro f hf
      have hfailure := Scene.gives_of_call hs hm hfree hquiet hf
      rw [readContents_result]
      exact hcurrent.symm.trans hfailure

/-- The file is cut short when a caller takes the marker, and whole when the caller reads it. -/
def overtaking : List Move :=
  [.call 0 .get, .go 0, .go 0, .go 0, .go 0, .change wholeFile, .go 0, .go 0, .go 0]

/-- Where that leads to. -/
def overtaken : Scene :=
  (Scene.start (Path.ofText "opac.yaml") false cutFile).play overtaking

/-- Another caller asks, and is answered. -/
def askedAnew : List Move :=
  .call 1 .get :: List.replicate 9 (.go 1)

/-- What was read is kept under the marker of the file that is gone, so that the next caller loads
the file again: it gets, and leaves behind, what the file holds. -/
theorem kept_is_current_overtaken :
    overtaken.store.cached.map (fun d => (d.marker, d.catalogueTitles)) =
        some (some ⟨2, 12⟩, ["GBV"]) ∧
      (∃ d, (overtaken.play askedAnew).stage 1 = .answered (.definition d) ∧ d.version = 2 ∧
        d.marker = some ⟨1, 23⟩ ∧
        FileHolds (Path.ofText "opac.yaml") false wholeFile d.contents) ∧
      ∃ d, (overtaken.play askedAnew).store.cached = some d ∧ d.marker = some ⟨1, 23⟩ ∧
        FileHolds (Path.ofText "opac.yaml") false wholeFile d.contents := by
  have hnew : NewMarkers [cutFile, wholeFile] := by
    refine List.pairwise_pair.2 ?_
    intro m hwhole hcut
    have hsame := hwhole.trans hcut.symm
    simp [wholeFile, cutFile] at hsame
  have hsight : overtaken.sight = wholeFile := Scene.sight_play _ overtaking
  have hafter : (overtaken.play askedAnew).sight = wholeFile :=
    (Scene.sight_of_quiet overtaken rfl).trans hsight
  have hmarker : wholeFile.marker = .ok ⟨1, 23⟩ := rfl
  have hfree : (overtaken.stage 1).free = true := by
    decide +kernel
  have hanswer : ((overtaken.play askedAnew).stage 1).definition?.map (·.version) = some 2 := by
    decide +kernel
  have hkept : (overtaken.play askedAnew).store.cached.map (·.marker) = some (some ⟨1, 23⟩) := by
    decide +kernel
  have hcalled := (kept_is_current (Path.ofText "opac.yaml") false cutFile overtaking hnew).2
  have hcached := (kept_is_current (Path.ofText "opac.yaml") false cutFile
    (overtaking ++ askedAnew) hnew).1
  rw [← overtaken] at hcalled
  rw [Scene.play_append, ← overtaken] at hcached
  refine ⟨by decide +kernel, ?_, ?_⟩
  all_goals generalize overtaken = s at *
  · obtain ⟨d, hd, hversion⟩ := Option.map_eq_some_iff.1 hanswer
    rw [Stage.definition?_eq_some_iff] at hd
    rw [hsight] at hcalled
    obtain ⟨hdm, hholds⟩ := (hcalled 1 .get ⟨1, 23⟩ _ hfree hmarker rfl).1 d hd
    exact ⟨d, hd, hversion, hdm, hholds⟩
  · obtain ⟨d, hd, hdm⟩ := Option.map_eq_some_iff.1 hkept
    rw [hafter] at hcached
    exact ⟨d, hd, hdm, hcached d ⟨1, 23⟩ hd hdm hmarker⟩

end LibraryCatalogue.Store
