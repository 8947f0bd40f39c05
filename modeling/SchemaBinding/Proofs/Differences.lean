import SchemaBinding.Command.Difference

/-!
# Differences of texts

The lines of a text make up the text, so that two texts with the same lines are the same.  A
difference is therefore found for two texts exactly if they are not the same.
-/

namespace SchemaBinding

/-- The lines of a text, one after the other, are the text. -/
theorem flatten_linesOf
    (text : List Char) :
    (linesOf text).flatten = text := by
  fun_induction linesOf text with
  | case1 => rfl
  | case2 rest inductionHypothesis => rw [List.flatten_cons, inductionHypothesis, List.singleton_append]
  | case3 c rest _ noLines inductionHypothesis =>
      rw [noLines] at inductionHypothesis
      rw [← inductionHypothesis]
      rfl
  | case4 c rest _ line lines isLines inductionHypothesis =>
      rw [isLines] at inductionHypothesis
      rw [List.flatten_cons, List.cons_append, ← List.flatten_cons, inductionHypothesis]

theorem linesOf_inj
    {left right : List Char} :
    linesOf left = linesOf right ↔ left = right := by
  constructor
  · intro same
    rw [← flatten_linesOf left, same, flatten_linesOf]
  · rintro rfl
    rfl

namespace Difference

theorem ofLines_eq_none_iff
    {number : Nat}
    {expected actual : List (List Char)} :
    ofLines number expected actual = none ↔ expected = actual := by
  fun_induction ofLines number expected actual with
  | case1 => simp
  | case2 => simp
  | case3 => simp
  | case4 number expected moreExpected moreActual inductionHypothesis => simp [inductionHypothesis]
  | case5 number expected moreExpected actual moreActual different => simp [different]

/-- No difference is found between two texts exactly if they are the same. -/
theorem first?_eq_none_iff
    {expected actual : String} :
    first? expected actual = none ↔ expected = actual := by
  rw [first?, ofLines_eq_none_iff, linesOf_inj, String.toList_inj]

end Difference
end SchemaBinding
