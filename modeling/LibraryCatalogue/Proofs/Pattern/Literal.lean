import LibraryCatalogue.Pattern.Matching

/-!
# Literal patterns

A pattern without special characters is read as a row of single characters, one for each of its own,
and matches the text that it is written as and no other.

* `specialCharacters`, `Literal` — the characters that may have a meaning of their own, and the texts
  without them;
* `tokens_literal`, `Reader.sequence_literal`, `compile_literal` — how such a text is cut into tokens,
  read, and compiled;
* `matchesAll_literal` — what it matches.
-/

namespace LibraryCatalogue.Pattern

/-- The characters that may have a meaning of their own in a pattern. -/
def specialCharacters : List Char :=
  ['\\', '.', '^', '$', '*', '+', '?', '{', '}', '[', ']', '|', '(', ')']

/-- No character has a meaning of its own. -/
def Literal (cs : List Char) : Prop :=
  ∀ c ∈ cs, c ∉ specialCharacters

instance (cs : List Char) : Decidable (Literal cs) :=
  List.decidableBAll _ cs

/-! ## Tokens -/

/-- Characters as tokens that are not escaped, from a position on. -/
def plainTokens : Nat → List Char → List Token
  | _, [] => []
  | n, c :: cs => ⟨n, false, c⟩ :: plainTokens (n + 1) cs

theorem length_plainTokens (n : Nat) (cs : List Char) : (plainTokens n cs).length = cs.length := by
  induction cs generalizing n with
  | nil => rfl
  | cons c cs ih => rw [plainTokens, List.length_cons, ih, List.length_cons]

theorem tokens_literal {cs : List Char} (h : Literal cs) (n : Nat) :
    tokens n cs = (plainTokens n cs, false) := by
  induction cs generalizing n with
  | nil => rfl
  | cons c cs ih =>
    obtain ⟨hc, hcs⟩ := List.forall_mem_cons.1 h
    have hne : c ≠ '\\' := by
      rintro rfl
      exact hc (by decide)
    rw [tokens]
    · rw [ih hcs]
      rfl
    · exact fun heq _ => hne heq
    · exact fun _ _ heq _ => hne heq

/-- A token is no special character when its character is none. -/
theorem Token.is_eq_false {c d : Char} (hc : c ∉ specialCharacters) (hd : d ∈ specialCharacters)
    (n : Nat) : Token.is ⟨n, false, c⟩ d = false := by
  have hne : c ≠ d := by
    rintro rfl
    exact hc hd
  simp [Token.is, hne]

/-! ## Reading -/

namespace Reader

/-- One step of the reader after another, when the first succeeds. -/
theorem run_bind_of_ok {α β : Type} {x : Reader α} {f : α → Reader β} {s s' : Reading} {a : α}
    (h : x.run s = .ok (a, s')) : (x >>= f).run s = (f a).run s' := by
  rw [StateT.run_bind, h]
  rfl

theorem run_peek? (s : Reading) : peek?.run s = .ok (s.rest.head?, s) := rfl

theorem run_get (s : Reading) : (get : Reader Reading).run s = .ok (s, s) := rfl

theorem run_checkEscape {s : Reading} (h : s.dangling = false) : checkEscape.run s = .ok ((), s) := by
  unfold checkEscape
  simp [h]
  rfl

theorem run_next?_cons {s : Reading} (h : s.dangling = false) (t : Token) (rest : List Token) :
    next?.run { s with rest := t :: rest } = .ok (some t, { s with rest := rest }) := by
  have hcheck := run_checkEscape (s := { s with rest := rest }) h
  show (checkEscape >>= fun _ => pure (some t)).run { s with rest := rest } = _
  rw [run_bind_of_ok hcheck]
  rfl

/-- A sequence ends where nothing is left to read. -/
theorem sequence_end {s : Reading} (hrest : s.rest = []) (fuel : Nat) (spaced first : Bool)
    (done : List Regex) : (sequence (fuel + 1) spaced first done).run s = .ok (done.reverse, s) := by
  rw [sequence, run_bind_of_ok (run_peek? s), hrest]
  rfl

/-- A character without a meaning of its own is a piece of the sequence. -/
theorem sequence_plain {c : Char} (hc : c ∉ specialCharacters) {s : Reading}
    (h : s.dangling = false) (n : Nat) (rest : List Token) (fuel : Nat) (first : Bool)
    (done : List Regex) :
    (sequence (fuel + 1) false first done).run { s with rest := ⟨n, false, c⟩ :: rest } =
      (sequence fuel false first (.one c.toNat :: done)).run { s with rest := rest } := by
  have hne : ∀ d ∈ specialCharacters, c ≠ d := by
    rintro d hd rfl
    exact hc hd
  rw [sequence, run_bind_of_ok (run_peek? _)]
  simp only [List.head?_cons, Token.is_eq_false hc (by decide : '|' ∈ specialCharacters),
    Token.is_eq_false hc (by decide : ')' ∈ specialCharacters), Bool.or_self, Bool.false_eq_true,
    if_false]
  rw [run_bind_of_ok (run_next?_cons h _ rest)]
  simp only [Bool.false_and, Bool.false_eq_true, if_false]
  split
  · exact absurd rfl (hne '[' (by decide))
  · exact absurd rfl (hne '.' (by decide))
  · exact absurd rfl (hne '^' (by decide))
  · exact absurd rfl (hne '$' (by decide))
  · exact absurd rfl (hne '(' (by decide))
  · simp [hne '*' (by decide), hne '+' (by decide), hne '?' (by decide), hne '{' (by decide)]

/-- **A text without special characters is read as a row of single characters.** -/
theorem sequence_literal {cs : List Char} (hcs : Literal cs) {s : Reading} (h : s.dangling = false)
    {fuel : Nat} (hfuel : cs.length ≤ fuel) (n : Nat) (first : Bool) (done : List Regex) :
    (sequence (fuel + 1) false first done).run { s with rest := plainTokens n cs } =
      .ok (done.reverse ++ cs.map fun c => .one c.toNat, { s with rest := [] }) := by
  induction cs generalizing fuel n done with
  | nil =>
    rw [sequence_end rfl, List.map_nil, List.append_nil]
    rfl
  | cons c cs ih =>
    obtain ⟨hc, hrest⟩ := List.forall_mem_cons.1 hcs
    obtain ⟨fuel, rfl⟩ : ∃ f, fuel = f + 1 := Nat.exists_eq_add_of_le' (Nat.le_of_add_left_le hfuel)
    rw [plainTokens, sequence_plain hc h, ih hrest (Nat.le_of_succ_le_succ hfuel), List.reverse_cons,
      List.append_assoc]
    rfl

/-- Such a text has no alternatives. -/
theorem alternatives_literal {cs : List Char} (hcs : Literal cs) (s : Reading)
    (h : s.dangling = false) {fuel : Nat} (hfuel : cs.length ≤ fuel) (n : Nat) :
    (alternatives (fuel + 2) false true []).run { s with rest := plainTokens n cs } =
      .ok (cs.map fun c => .one c.toNat, { s with rest := [] }) := by
  rw [alternatives, run_bind_of_ok (sequence_literal hcs h hfuel n _ [])]
  rfl

end Reader

/-! ## Compiling and matching -/

theorem badLookbehind?_literal (cs : List Char) :
    badLookbehind? (cs.map fun c => .one c.toNat) = none := by
  induction cs with
  | nil => rfl
  | cons c cs ih =>
    rw [List.map_cons, badLookbehind?, ih]
    rfl

theorem readPattern_literal {cs : List Char} (hcs : Literal cs) :
    (readPattern.run ⟨cs, plainTokens 0 cs, false, [], [], [], none, []⟩).map (·.1) =
      .ok ⟨.plain, cs.map fun c => .one c.toNat⟩ := by
  have hpieces := Reader.alternatives_literal hcs ⟨cs, [], false, [], [], [], none, []⟩ rfl
    (by omega : cs.length ≤ 4 * cs.length + 2) 0
  unfold readPattern
  rw [Reader.run_bind_of_ok (Reader.run_checkEscape rfl), Reader.run_bind_of_ok (Reader.run_get _),
    length_plainTokens, Reader.run_bind_of_ok hpieces]
  -- No flag was set, no group was opened, and nothing is left.
  simp only [badLookbehind?_literal]
  rfl

/-- **A text without special characters can be compiled**, without options and to its characters. -/
theorem compile_literal {text : String} (h : Literal text.toList) :
    compile text = .ok ⟨.plain, text.toList.map fun c => .one c.toNat⟩ := by
  show (readPattern.run ⟨text.toList, (tokens 0 text.toList).1, (tokens 0 text.toList).2, [], [], [],
    none, []⟩).map (·.1) = _
  rw [tokens_literal h]
  exact readPattern_literal h

/-- A row of single characters matches what is ahead when that is these characters and no more. -/
theorem runAll_literal (cs : List Char) (s : Cursor) :
    (runAll .plain (cs.map fun c => .one c.toNat) s fun s =>
      if s.ahead.isEmpty then some s else none).isSome = decide (s.ahead = cs) := by
  induction cs generalizing s with
  | nil =>
    rw [List.map_nil, runAll]
    cases s.ahead <;> simp
  | cons c cs ih =>
    rw [List.map_cons, runAll, Regex.run, consume]
    cases hs : s.ahead with
    | nil => simp
    | cons d rest =>
      have hcode : matchesCode .plain c.toNat d = decide (d = c) := by
        show (d.toNat == c.toNat) = _
        rw [Bool.eq_iff_iff, beq_iff_eq, Char.toNat_inj, decide_eq_true_iff]
      simp only [hcode]
      by_cases hd : d = c
      · have hrest := ih (s.advance d rest)
        simp only [hd, decide_true, if_true, Cursor.advance] at hrest ⊢
        rw [hrest]
        simp
      · simp [hd]

/-- **A literal pattern matches the text that it is written as, and no other.** -/
theorem matchesAll_literal (cs : List Char) (text : String) :
    Compiled.matchesAll ⟨.plain, cs.map fun c => .one c.toNat⟩ text = decide (text.toList = cs) :=
  runAll_literal cs (.start text.toList)

end LibraryCatalogue.Pattern
