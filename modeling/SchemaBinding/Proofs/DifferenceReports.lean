import Mathlib.Data.List.TakeWhile
import SchemaBinding.Proofs.Differences
import SchemaBinding.Proofs.QuotedText

/-!
# Reports of differences

Two texts are compared piece by piece, each piece going up to a line feed.  The comparison always
ends, and it comes to the end of both texts only if they are the same.  Otherwise it reports the
first place where the pieces differ; the two pieces that it shows there never look the same.
-/

namespace SchemaBinding

/-! ## Pieces of a text -/

/-- Whether a text is cut into pieces after every line feed. -/
inductive CutsInto : List Char → List (List Char) → Prop
  /-- Nothing is left of the text. -/
  | nil : CutsInto [] []
  /-- What is left of the text has no line feed. -/
  | last {body : List Char} (nonempty : body ≠ []) (unbroken : '\n' ∉ body) :
      CutsInto body [body]
  /-- A piece goes up to the next line feed. -/
  | cons {body rest : List Char} {pieces : List (List Char)} (unbroken : '\n' ∉ body)
      (cuts : CutsInto rest pieces) :
      CutsInto (body ++ '\n' :: rest) ((body ++ ['\n']) :: pieces)

/-- The next piece of a text, if anything is left of the text, and what comes after the piece. -/
def nextPiece (text : List Char) : Option (List Char) × List Char :=
  if text = [] then (none, [])
  else
    let rest := text.dropWhile (· ≠ '\n')
    (some (text.takeWhile (· ≠ '\n') ++ rest.take 1), rest.drop 1)

theorem linesOf_eq_nil_iff
    {text : List Char} :
    linesOf text = [] ↔ text = [] :=
  (linesOf_inj : linesOf text = linesOf [] ↔ text = [])

/-- A text without a line feed is a single line. -/
theorem linesOf_of_unbroken
    {body : List Char}
    (nonempty : body ≠ [])
    (unbroken : '\n' ∉ body) :
    linesOf body = [body] := by
  induction body with
  | nil => exact absurd rfl nonempty
  | cons c rest inductionHypothesis =>
      have restUnbroken : '\n' ∉ rest := List.not_mem_of_not_mem_cons unbroken
      rw [linesOf, if_neg (List.ne_of_not_mem_cons unbroken).symm]
      cases rest with
      | nil => rfl
      | cons d rest => rw [inductionHypothesis (List.cons_ne_nil d rest) restUnbroken]

/-- The first line of a text goes up to the first line feed. -/
theorem linesOf_append_lineFeed
    {body : List Char}
    (unbroken : '\n' ∉ body)
    (rest : List Char) :
    linesOf (body ++ '\n' :: rest) = (body ++ ['\n']) :: linesOf rest := by
  induction body with
  | nil => rw [List.nil_append, linesOf, if_pos rfl, List.nil_append]
  | cons c body inductionHypothesis =>
      rw [List.cons_append, linesOf, if_neg (List.ne_of_not_mem_cons unbroken).symm,
        inductionHypothesis (List.not_mem_of_not_mem_cons unbroken)]
      rfl

/-- The lines of a text are all that it can be cut into. -/
theorem CutsInto.eq_linesOf
    {text : List Char}
    {pieces : List (List Char)}
    (cuts : CutsInto text pieces) :
    pieces = linesOf text := by
  induction cuts with
  | nil => rw [linesOf]
  | last nonempty unbroken => rw [linesOf_of_unbroken nonempty unbroken]
  | cons unbroken cuts inductionHypothesis =>
      rw [linesOf_append_lineFeed unbroken, inductionHypothesis]

/-- A text that is not at its end begins with a piece, which is its last one or goes up to a line
feed. -/
theorem nextPiece_cases
    {text : List Char}
    (nonempty : text ≠ []) :
    (nextPiece text = (some text, []) ∧ '\n' ∉ text) ∨
      ∃ body rest, text = body ++ '\n' :: rest ∧ '\n' ∉ body ∧
        nextPiece text = (some (body ++ ['\n']), rest) := by
  have split := List.takeWhile_append_dropWhile (p := (· ≠ '\n')) (l := text)
  have unbroken : '\n' ∉ text.takeWhile (· ≠ '\n') := by
    intro member
    simpa using List.mem_takeWhile_imp member
  unfold nextPiece
  rw [if_neg nonempty]
  generalize text.takeWhile (· ≠ '\n') = body at split unbroken ⊢
  cases isRest : text.dropWhile (· ≠ '\n') with
  | nil =>
      rw [isRest, List.append_nil] at split
      subst split
      exact .inl ⟨by simp, unbroken⟩
  | cons c rest =>
      have isBreak : c = '\n' := by
        have stops := List.head?_dropWhile_not (· ≠ '\n') text
        rw [isRest] at stops
        simpa using stops
      subst isBreak
      rw [isRest] at split
      exact .inr ⟨body, rest, split.symm, unbroken, by simp⟩

theorem nextPiece_of_linesOf_nil
    {text : List Char}
    (noLines : linesOf text = []) :
    nextPiece text = (none, []) := by
  rw [linesOf_eq_nil_iff.1 noLines, nextPiece, if_pos rfl]

/-- The pieces of a text are its lines, one after the other. -/
theorem nextPiece_of_linesOf_cons
    {text piece : List Char}
    {pieces : List (List Char)}
    (areLines : linesOf text = piece :: pieces) :
    ∃ rest, nextPiece text = (some piece, rest) ∧ linesOf rest = pieces := by
  have nonempty : text ≠ [] := by
    rintro rfl
    cases areLines
  rcases nextPiece_cases nonempty with ⟨next, unbroken⟩ | ⟨body, rest, rfl, unbroken, next⟩
  · rw [linesOf_of_unbroken nonempty unbroken, List.cons.injEq] at areLines
    obtain ⟨rfl, rfl⟩ := areLines
    exact ⟨[], next, rfl⟩
  · rw [linesOf_append_lineFeed unbroken, List.cons.injEq] at areLines
    obtain ⟨rfl, isRest⟩ := areLines
    exact ⟨rest, next, isRest⟩

/-- A text is cut into its lines. -/
theorem cutsInto_linesOf
    (text : List Char) :
    CutsInto text (linesOf text) := by
  generalize isLines : linesOf text = pieces
  induction pieces generalizing text with
  | nil =>
      rw [linesOf_eq_nil_iff.1 isLines]
      exact .nil
  | cons piece pieces inductionHypothesis =>
      have nonempty : text ≠ [] := by
        rintro rfl
        cases isLines
      rcases nextPiece_cases nonempty with ⟨_, unbroken⟩ | ⟨body, rest, rfl, unbroken, _⟩
      · rw [linesOf_of_unbroken nonempty unbroken] at isLines
        cases isLines
        exact .last nonempty unbroken
      · rw [linesOf_append_lineFeed unbroken] at isLines
        cases isLines
        exact .cons unbroken (inductionHypothesis rest rfl)

theorem cutsInto_iff
    {text : List Char}
    {pieces : List (List Char)} :
    CutsInto text pieces ↔ pieces = linesOf text := by
  constructor
  · exact CutsInto.eq_linesOf
  · rintro rfl
    exact cutsInto_linesOf text

namespace Difference

/-! ## Comparing texts -/

/-- What the comparison of two texts comes to. -/
inductive Comparison where
  /-- The end of both texts. -/
  | ended
  /-- A difference. -/
  | differs (difference : Difference)
deriving DecidableEq, Repr

/-- What is left of two texts that are compared. -/
structure Rests where
  /-- What is left of the expected text. -/
  expected : List Char
  /-- What is left of the actual text. -/
  actual : List Char

/-- Compares what is left of two texts, whose next pieces have a given number. -/
def Rests.compareFrom (rests : Rests) (number : Nat) : Option Comparison :=
  match nextPiece rests.expected, nextPiece rests.actual with
  | (none, _), (none, _) => some .ended
  | (expectedPiece, expectedRest), (actualPiece, actualRest) =>
      if expectedPiece = actualPiece then
        (⟨expectedRest, actualRest⟩ : Rests) |>.compareFrom (number + 1)
      else some (.differs ⟨number, expectedPiece, actualPiece⟩)
partial_fixpoint

/-- What is reported of two texts, if anything. -/
def report? (expected actual : String) : Option (Option String) := do
  if expected = actual then return none
  match ← (⟨expected.toList, actual.toList⟩ : Rests).compareFrom 1 with
  | .ended => return none
  | .differs difference => return some difference.text

/-- The comparison ends, and it comes to what the lines of the texts come to. -/
theorem Rests.compareFrom_eq
    (number : Nat)
    (expected actual : List Char) :
    (⟨expected, actual⟩ : Rests).compareFrom number =
      some ((ofLines number (linesOf expected) (linesOf actual)).elim .ended .differs) := by
  generalize isLeft : linesOf expected = left
  generalize isRight : linesOf actual = right
  fun_induction ofLines number left right generalizing expected actual with
  | case1 number =>
      rw [compareFrom, nextPiece_of_linesOf_nil isLeft, nextPiece_of_linesOf_nil isRight]
      rfl
  | case2 number piece pieces =>
      obtain ⟨rest, next, _⟩ := nextPiece_of_linesOf_cons isLeft
      rw [compareFrom, next, nextPiece_of_linesOf_nil isRight]
      rfl
  | case3 number piece pieces =>
      obtain ⟨rest, next, _⟩ := nextPiece_of_linesOf_cons isRight
      rw [compareFrom, nextPiece_of_linesOf_nil isLeft, next]
      rfl
  | case4 number moreExpected piece moreActual inductionHypothesis =>
      obtain ⟨expectedRest, expectedNext, expectedLines⟩ := nextPiece_of_linesOf_cons isLeft
      obtain ⟨actualRest, actualNext, actualLines⟩ := nextPiece_of_linesOf_cons isRight
      rw [compareFrom, expectedNext, actualNext]
      dsimp only
      rw [if_pos rfl, inductionHypothesis expectedRest actualRest expectedLines actualLines]
  | case5 number piece moreExpected other moreActual different =>
      obtain ⟨expectedRest, expectedNext, _⟩ := nextPiece_of_linesOf_cons isLeft
      obtain ⟨actualRest, actualNext, _⟩ := nextPiece_of_linesOf_cons isRight
      rw [compareFrom, expectedNext, actualNext]
      dsimp only
      rw [if_neg fun same => different (Option.some.inj same)]
      rfl

theorem report?_eq
    (expected actual : String) :
    report? expected actual = some ((first? expected actual).map text) := by
  unfold report?
  split_ifs with same
  · rw [first?_eq_none_iff.2 same]
    rfl
  · rw [Rests.compareFrom_eq]
    change _ = some ((ofLines 1 (linesOf expected.toList) (linesOf actual.toList)).map text)
    cases ofLines 1 (linesOf expected.toList) (linesOf actual.toList) <;> rfl

/-! ## The first difference -/

/-- Whether a difference is the first one of two lists of pieces that are counted from a given
number on. -/
structure IsFirst (difference : Difference) (start : Nat) (left right : List (List Char)) :
    Prop where
  /-- The pieces are counted from there on. -/
  start_le : start ≤ difference.number
  /-- The first list has the expected piece at this number. -/
  expected_eq : difference.expected = left[difference.number - start]?
  /-- The second list has the actual piece at this number. -/
  actual_eq : difference.actual = right[difference.number - start]?
  /-- They differ, or only one of them is there. -/
  differ : difference.expected ≠ difference.actual
  /-- All pieces before are there and are the same. -/
  alike : ∀ index < difference.number - start, ∃ piece,
    left[index]? = some piece ∧ right[index]? = some piece

theorem isFirst_of_ofLines
    {difference : Difference}
    {number : Nat}
    {left right : List (List Char)}
    (found : ofLines number left right = some difference) :
    difference.IsFirst number left right := by
  fun_induction ofLines number left right with
  | case1 => cases found
  | case2 | case3 =>
      cases found
      exact ⟨le_rfl, by simp, by simp, by simp, by simp⟩
  | case4 number moreLeft piece moreRight inductionHypothesis =>
      obtain ⟨start_le, expected_eq, actual_eq, differ, alike⟩ := inductionHypothesis found
      have shift : difference.number - number = difference.number - (number + 1) + 1 := by omega
      refine ⟨by omega, ?_, ?_, differ, ?_⟩
      · rw [expected_eq, shift, List.getElem?_cons_succ]
      · rw [actual_eq, shift, List.getElem?_cons_succ]
      · intro index before
        cases index with
        | zero => exact ⟨piece, rfl, rfl⟩
        | succ index => exact alike index (by omega)
  | case5 number piece moreLeft other moreRight different =>
      cases found
      exact ⟨le_rfl, by simp, by simp, by simpa using different, by simp⟩

/-! ## Shown lines -/

/-- Whether two pieces differ at most in the characters at their ends that break lines. -/
def SameUpToBreaks (left right : List Char) : Prop :=
  ∃ body leftBreaks rightBreaks, left = body ++ leftBreaks ∧ right = body ++ rightBreaks ∧
    ∀ c ∈ leftBreaks ++ rightBreaks, c = '\r' ∨ c = '\n'

theorem exists_lineContent_append
    (line : List Char) :
    ∃ breaks, line = lineContent line ++ breaks ∧ ∀ c ∈ breaks, c = '\r' ∨ c = '\n' := by
  refine ⟨(line.reverse.takeWhile fun c => c = '\r' || c = '\n').reverse, ?_, ?_⟩
  · rw [lineContent, Text.dropEndWhile, ← List.reverse_append, List.takeWhile_append_dropWhile,
      List.reverse_reverse]
  · intro c member
    simpa using List.mem_takeWhile_imp (List.mem_reverse.1 member)

theorem lineContent_append
    {breaks : List Char}
    (areBreaks : ∀ c ∈ breaks, c = '\r' ∨ c = '\n')
    (body : List Char) :
    lineContent (body ++ breaks) = lineContent body := by
  unfold lineContent Text.dropEndWhile
  rw [List.reverse_append, List.dropWhile_append_of_pos]
  intro c member
  simpa using areBreaks c (List.mem_reverse.1 member)

theorem lineContent_eq_iff
    {left right : List Char} :
    lineContent left = lineContent right ↔ SameUpToBreaks left right := by
  constructor
  · intro same
    obtain ⟨leftBreaks, leftSplit, leftAre⟩ := exists_lineContent_append left
    obtain ⟨rightBreaks, rightSplit, rightAre⟩ := exists_lineContent_append right
    exact ⟨lineContent left, leftBreaks, rightBreaks, leftSplit, same ▸ rightSplit,
      List.forall_mem_append.2 ⟨leftAre, rightAre⟩⟩
  · rintro ⟨body, leftBreaks, rightBreaks, rfl, rfl, areBreaks⟩
    obtain ⟨leftAre, rightAre⟩ := List.forall_mem_append.1 areBreaks
    rw [lineContent_append leftAre, lineContent_append rightAre]

theorem onlyInBreaks_iff
    {difference : Difference}
    {left right : List Char}
    (isExpected : difference.expected = some left)
    (isActual : difference.actual = some right) :
    difference.onlyInBreaks = true ↔ SameUpToBreaks left right := by
  rw [onlyInBreaks, isExpected, isActual, decide_eq_true_iff, Option.map_some, Option.map_some,
    Option.some.injEq, lineContent_eq_iff]

/-- Two pieces that are not the same do not look the same, provided that they are quoted if they
differ at most in their breaks. -/
theorem shownLine_ne
    {quoted : Bool}
    {left right : List Char}
    (different : left ≠ right)
    (quoted_iff : quoted = true ↔ SameUpToBreaks left right) :
    shownLine quoted (some left) ≠ shownLine quoted (some right) := by
  cases quoted with
  | true =>
      simp only [shownLine, if_true, ne_eq, Text.quote_inj, String.ofList_inj]
      exact different
  | false =>
      simp only [shownLine, Bool.false_eq_true, if_false, ne_eq, String.ofList_inj,
        lineContent_eq_iff]
      exact fun same => Bool.false_ne_true (quoted_iff.2 same)

end Difference
end SchemaBinding
