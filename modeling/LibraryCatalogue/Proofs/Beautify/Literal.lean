import LibraryCatalogue.Proofs.Beautify.Writes
import LibraryCatalogue.Proofs.Pattern.Literal

/-!
# Literal conditions

A condition whose value has no special characters, once its spaces are restored, asks for that value
and nothing else.  Values of rules have their spaces restored in the same way, so such a condition
holds of what a rule with its value wrote.

* `wholeMatch_literal`, `Condition.holds_literal` — what a literal pattern, and a condition with one,
  say of a field;
* `literal_matches_itself_only` — the records that such a condition holds of.
-/

namespace LibraryCatalogue

/-! ## Literal values -/

theorem wholeMatch_literal {pattern : String} (h : Pattern.Literal pattern.toList)
    (current : Option String) : wholeMatch pattern current = .ok (decide (current = some pattern)) := by
  cases current with
  | none => rfl
  | some value =>
    rw [wholeMatch, Pattern.compile_literal h, Except.map, Pattern.matchesAll_literal]
    simp only [String.toList_inj, Option.some.injEq]

theorem Condition.holds_literal {c : Condition} (h : Pattern.Literal c.literalValue.toList)
    (fields : Fields) :
    c.holds fields = .ok (decide (fields.get? c.key = some c.literalValue)) := by
  unfold Condition.holds
  cases c.mode with
  | wholeMatch => exact wholeMatch_literal h _

/-- A literal condition fails of a field that holds something else, or nothing. -/
theorem Condition.holds_literal_of_ne {c : Condition} (h : Pattern.Literal c.literalValue.toList)
    {fields : Fields} (hne : fields.get? c.key ≠ some c.literalValue) :
    c.holds fields = .ok false := by
  rw [Condition.holds_literal h, decide_eq_false hne]

/-- A literal condition holds of a field that holds its value. -/
theorem Condition.holds_literal_of_eq {c : Condition} (h : Pattern.Literal c.literalValue.toList)
    {fields : Fields} (heq : fields.get? c.key = some c.literalValue) :
    c.holds fields = .ok true := by
  rw [Condition.holds_literal h, decide_eq_true heq]

/-- No text is a proper part of itself. -/
theorem between_ne {before text after : String} (h : before ≠ "" ∨ after ≠ "") :
    before ++ text ++ after ≠ text := by
  intro heq
  have hlength := congrArg String.length heq
  rw [String.length_append, String.length_append] at hlength
  rcases h with h | h <;> exact h (String.length_eq_zero_iff.1 (by omega))

/-! ## The result -/

/-- A condition holds of a field that has its value, and of no other. -/
structure Condition.MatchesItselfOnly (c : Condition) : Prop where
  /-- It has an answer for every record, and the value of its field alone decides. -/
  decided : ∀ fields : Fields,
    c.holds fields = .ok (decide (fields.get? c.key = some c.literalValue))
  /-- It holds once a rule with the same field and value has written. -/
  written : ∀ (a : Action) (fields : Fields), a.key = c.key → a.value = c.value →
    c.holds (a.write fields) = .ok true
  /-- It holds after a pass in which such a rule was the last to be applied to its field. -/
  settled : ∀ (record : Fields) (rules : List Action) (t : Trace) (a : Action),
    trace record rules = .ok t →
    ((appliedActions t.outcomes).filter (·.key = c.key)).getLast? = some a → a.value = c.value →
    c.holds t.fields = .ok true
  /-- It fails of a record without the field, and of one in which the field has no value. -/
  missing : ∀ fields : Fields, fields.lookup c.key = none ∨ fields.lookup c.key = some none →
    c.holds fields = .ok false
  /-- It fails of a text that is a part of its value, such as a proper prefix. -/
  shorter : ∀ (fields : Fields) (before text after : String), before ≠ "" ∨ after ≠ "" →
    c.literalValue = before ++ text ++ after → fields.get? c.key = some text →
    c.holds fields = .ok false
  /-- It fails of a text that has its value and more. -/
  longer : ∀ (fields : Fields) (before after : String), before ≠ "" ∨ after ≠ "" →
    fields.get? c.key = some (before ++ c.literalValue ++ after) → c.holds fields = .ok false

/-- **A literal value matches itself and nothing else.**  Where the value of a condition has no special
characters once its spaces are restored, the condition has an answer for every record, and it is
whether its field holds exactly that value: it is yes after a rule wrote the same value there, and no
where the field is missing or has no value, or holds a part of the value or more than it. -/
theorem literal_matches_itself_only {c : Condition}
    (h : Pattern.Literal (restoreSpaces c.value).toList) : c.MatchesItselfOnly := by
  constructor
  case decided => exact Condition.holds_literal h
  case written =>
    intro a fields hkey hvalue
    apply Condition.holds_literal_of_eq h
    rw [Action.write_eq, Fields.get?_insert, if_pos hkey.symm, Action.literalValue, hvalue]
    rfl
  case settled =>
    intro record rules t a ht hlast hvalue
    apply Condition.holds_literal_of_eq h
    rw [Fields.get?, lookup_trace ht, hlast]
    show some (restoreSpaces a.value) = _
    rw [hvalue]
    rfl
  case missing =>
    intro fields hmissing
    apply Condition.holds_literal_of_ne h
    unfold Fields.get?
    rcases hmissing with hnone | hnone <;> rw [hnone] <;> simp
  case shorter =>
    intro fields before text after hmore hvalue hfield
    apply Condition.holds_literal_of_ne h
    rw [hfield, hvalue]
    exact fun heq => between_ne hmore (Option.some.inj heq).symm
  case longer =>
    intro fields before after hmore hfield
    apply Condition.holds_literal_of_ne h
    rw [hfield]
    exact fun heq => between_ne hmore (Option.some.inj heq)

/-- A condition with spaces, a line feed, and signs that are no special characters. -/
def sheetMark : Condition :=
  ⟨"209A", some "", "Größe␣3/4-5␣#\n␣«A»", .wholeMatch⟩

theorem literal_matches_itself_only_sheet :
    Pattern.Literal (restoreSpaces sheetMark.value).toList ∧
      sheetMark.holds [(⟨"209A", none⟩, some "Größe 3/4-5 #\n «A»")] = .ok true ∧
      sheetMark.holds [(⟨"209A", none⟩, some "Größe␣3/4-5␣#\n␣«A»")] = .ok false ∧
      sheetMark.holds [(⟨"209A", none⟩, some "Größe 3/4-5 #\n «A»\n")] = .ok false ∧
      sheetMark.holds [(⟨"209A", none⟩, none)] = .ok false := by
  have hliteral : Pattern.Literal (restoreSpaces sheetMark.value).toList := by decide
  have honly := literal_matches_itself_only hliteral
  refine ⟨hliteral, (honly.decided _).trans ?_, (honly.decided _).trans ?_, ?_,
    honly.missing _ (Or.inr (by decide))⟩
  · exact congrArg Except.ok (by decide)
  · exact congrArg Except.ok (by decide)
  · exact honly.longer _ "" "\n" (Or.inr (by decide)) (by decide)

end LibraryCatalogue
