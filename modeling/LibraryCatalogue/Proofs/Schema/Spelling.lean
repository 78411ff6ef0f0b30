import LibraryCatalogue.Proofs.Value.Fields
import LibraryCatalogue.Schema.Entry

/-!
# Spellings of numbers and truth values

A definition file may carry a port as a number or as a text of digits, and a flag as a truth value or
as a word.

* `integerOfText_toString` — the digits of a number are read as the number;
* `Spelling`, `Spelling.native`, `Spelling.worded` — how a definition spells ports and flags;
* `Spelling.Faithful` — what is read is what was spelled; both spellings are faithful.
-/

namespace LibraryCatalogue.Schema

/-! ## Decimal digits -/

theorem digitsValue_toDigits (n : Nat) : digitsValue (Nat.toDigits 10 n) = n :=
  Nat.ofDigitChars_ten_toDigits

theorem toDigits_isDigit (n : Nat) : ∀ c ∈ Nat.toDigits 10 n, c.isDigit = true :=
  fun _ hc => Nat.isDigit_of_mem_toDigits (by omega) (by omega) hc

/-- The digits of a positive number do not begin with a zero. -/
theorem exists_toDigits_eq_cons {n : Nat} (hn : 0 < n) :
    ∃ c rest, Nat.toDigits 10 n = c :: rest ∧ c ≠ '0' := by
  induction n using Nat.strongRecOn with
  | ind n ih =>
    rw [Nat.toDigits_eq_if (by omega)]
    split
    · refine ⟨n.digitChar, [], rfl, ?_⟩
      rw [ne_eq, Nat.digitChar_eq_zero]
      omega
    · obtain ⟨c, rest, hc, h0⟩ := ih (n / 10) (by omega) (by omega)
      exact ⟨c, rest ++ [(n % 10).digitChar], by rw [hc, List.cons_append], h0⟩

theorem ne_of_isDigit {c d : Char} (hc : c.isDigit = true) (hd : d.isDigit = false) : c ≠ d := by
  rintro rfl
  rw [hc] at hd
  cases hd

theorem isNumberBlank_of_isDigit {c : Char} (hc : c.isDigit = true) : isNumberBlank c = false := by
  simp only [Char.isDigit, Bool.and_eq_true, decide_eq_true_eq] at hc
  have hlow : 48 ≤ c.toNat := hc.1
  have hhigh : c.toNat ≤ 57 := hc.2
  simp only [isNumberBlank, isBlank, Bool.and_eq_false_iff, Bool.or_eq_false_iff,
    decide_eq_false_iff_not, beq_eq_false_iff_ne]
  left
  omega

theorem trimBoth_of_digits {cs : List Char} (h : ∀ c ∈ cs, c.isDigit = true) :
    trimBoth isNumberBlank cs = cs := by
  have hdrop : ∀ {l : List Char}, (∀ c ∈ l, c.isDigit = true) → l.dropWhile isNumberBlank = l := by
    intro l hl
    cases l with
    | nil => rfl
    | cons c rest =>
      rw [List.dropWhile_cons_of_neg]
      simp [isNumberBlank_of_isDigit (hl c List.mem_cons_self)]
  unfold trimBoth
  rw [hdrop h, hdrop (l := cs.reverse) (by simpa using h), List.reverse_reverse]

theorem takeWhile_of_digits {cs : List Char} (h : ∀ c ∈ cs, c.isDigit = true) :
    cs.takeWhile Char.isDigit = cs := by
  induction cs with
  | nil => rfl
  | cons c rest ih =>
    rw [List.takeWhile_cons_of_pos (h c List.mem_cons_self),
      ih fun x hx => h x (List.mem_cons_of_mem c hx)]

/-- Digits without a zero in front are a plain integer. -/
theorem plainInteger_of_digits {c : Char} {rest : List Char}
    (h : ∀ x ∈ c :: rest, x.isDigit = true) (h0 : c ≠ '0')
    (hlength : (c :: rest).length ≤ integerLengthLimit) :
    plainInteger (c :: rest) = .ok (digitsValue (c :: rest)) := by
  have hminus : c ≠ '-' := ne_of_isDigit (h c List.mem_cons_self) (by decide)
  have hsign : ((c :: rest).head? == some '-') = false := by simpa using hminus
  have hzero : ((c :: rest).head? == some '0') = false := by simpa using h0
  unfold plainInteger
  simp only [hsign, Bool.false_eq_true, if_false, takeWhile_of_digits h, List.isEmpty_cons, hzero,
    Bool.false_and, Bool.or_false, Nat.zero_add, bne_self_eq_false]
  rw [if_neg (by omega)]

/-- **The digits of a positive number are read as the number.** -/
theorem integerOfText_toString {n : Nat} (hn : 0 < n)
    (hlength : (toString n).length ≤ integerLengthLimit) :
    integerOfText (toString n) = .ok n := by
  obtain ⟨c, rest, hc, h0⟩ := exists_toDigits_eq_cons hn
  have hdigits : ∀ x ∈ c :: rest, x.isDigit = true := by
    rw [← hc]
    exact toDigits_isDigit n
  have htext : (toString n).toList = c :: rest := by
    rw [Nat.toString_eq_repr, Nat.toList_repr, hc]
  have hplus : dropPlus (c :: rest) = some (c :: rest) := by
    have hne : c ≠ '+' := ne_of_isDigit (hdigits c List.mem_cons_self) (by decide)
    unfold dropPlus
    split
    · rename_i heq
      cases heq
      exact absurd rfl hne
    · rename_i heq
      cases heq
      exact absurd rfl hne
    · rfl
  have hlong : (c :: rest).length ≤ integerLengthLimit := by
    rw [← htext, String.length_toList]
    exact hlength
  have hzeros := dropLeadingZeros_of_isDigit (hdigits c List.mem_cons_self) h0 rest
  unfold integerOfText
  rw [htext, trimBoth_of_digits hdigits, hplus, Option.bind_some, hzeros]
  show plainInteger (dropLowLines (dropZeroFraction (c :: rest))) = _
  rw [dropZeroFraction_of_digits hdigits, dropLowLines_of_digits hdigits,
    plainInteger_of_digits hdigits h0 hlong, ← hc, digitsValue_toDigits]

/-! ## Spellings -/

/-- How a definition spells the ports and the flags in it. -/
structure Spelling where
  port : Nat → Value
  flag : Bool → Value

/-- Ports are numbers, and flags truth values. -/
def Spelling.native : Spelling where
  port n := .int n
  flag := .bool

/-- The word for a truth value. -/
def flagWord (b : Bool) : String :=
  if b then "true" else "false"

/-- Ports and flags are texts. -/
def Spelling.worded : Spelling where
  port n := .text (toString n)
  flag b := .text (flagWord b)

/-- What is read is what was spelled, also after freezing. -/
structure Spelling.Faithful (s : Spelling) : Prop where
  port : ∀ n, 0 < n → (toString n).length ≤ integerLengthLimit → checkPort (s.port n) = .ok n
  flag : ∀ b, truthValue (s.flag b) = .ok b
  port_loose : ∀ n, (s.port n).Loose
  flag_loose : ∀ b, (s.flag b).Loose

theorem positive_of_integer {v : Value} {n : Nat} (h : integer v = .ok n) (hn : 0 < n) :
    positive v = .ok n := by
  have hi : (0 : Int) < n := by omega
  unfold positive
  rw [h]
  simp only [bind, Except.bind, if_pos hi]
  rfl

theorem Spelling.native_faithful : Spelling.native.Faithful where
  port n hn _ := positive_of_integer (v := .int n) rfl hn
  flag _ := rfl
  port_loose n := Value.loose_int n
  flag_loose b := Value.loose_bool b

theorem Spelling.worded_faithful : Spelling.worded.Faithful where
  port n hn hlength :=
    positive_of_integer (v := .text (toString n)) (integerOfText_toString hn hlength) hn
  flag b := by cases b <;> rfl
  port_loose _ := Value.loose_text _
  flag_loose _ := Value.loose_text _

end LibraryCatalogue.Schema
