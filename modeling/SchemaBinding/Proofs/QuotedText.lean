import Mathlib.Data.Char
import SchemaBinding.Text.Quoted

/-!
# Reading quoted text

Quoted text can be read back, one character after the other: what stands for a character in it says
where it ends.  So no two texts are quoted alike.
-/

namespace SchemaBinding
namespace Text

/-! ## Hexadecimal digits -/

/-- The value of a hexadecimal digit. -/
def hexadecimalValue (digit : Char) : Nat :=
  if digit.toNat < 58 then digit.toNat - 48 else digit.toNat - 87

/-- The number that hexadecimal digits stand for. -/
def readHexadecimal (digits : List Char) : Nat :=
  digits.foldl (fun value digit => 16 * value + hexadecimalValue digit) 0

theorem hexadecimalValue_digitChar :
    ∀ value < 16, hexadecimalValue value.digitChar = value := by
  decide

theorem readHexadecimal_hexadecimal (code : Nat) : readHexadecimal (hexadecimal code) = code := by
  induction code using Nat.strong_induction_on with
  | _ code inductionHypothesis =>
      unfold hexadecimal
      rw [Nat.toDigits_eq_if (by decide)]
      split
      next small =>
        simp [readHexadecimal, hexadecimalValue_digitChar code small]
      next large =>
        have front := inductionHypothesis (code / 16) (by omega)
        have last := hexadecimalValue_digitChar (code % 16) (Nat.mod_lt _ (by decide))
        unfold readHexadecimal hexadecimal at front
        rw [readHexadecimal, List.foldl_append, front, List.foldl_cons, List.foldl_nil, last]
        omega

theorem not_mem_hexadecimal (code : Nat) : '\x7d' ∉ hexadecimal code := by
  induction code using Nat.strong_induction_on with
  | _ code inductionHypothesis =>
      have noDigit : ∀ value : Nat, '\x7d' ≠ value.digitChar := fun _ =>
        (Nat.digitChar_ne '\x7d' (by decide)).symm
      unfold hexadecimal
      rw [Nat.toDigits_eq_if (by decide)]
      split
      next => simp [noDigit]
      next large =>
        have front := inductionHypothesis (code / 16) (by omega)
        simp only [List.mem_append, List.mem_singleton, not_or]
        exact ⟨front, noDigit _⟩

/-! ## Reading back -/

/-- The character that stands behind a backslash in place of another one. -/
def escapedChar : Char → Char
  | 'n' => '\n'
  | 'r' => '\r'
  | 't' => '\t'
  | '0' => '\x00'
  | c => c

/-- The first character that quoted text stands for, and what comes after it. -/
def unquoteChar? : List Char → Option (Char × List Char)
  | [] => none
  | '\\' :: 'u' :: '\x7b' :: rest =>
      some (Char.ofNat (readHexadecimal (rest.takeWhile (· ≠ '\x7d'))),
        (rest.dropWhile (· ≠ '\x7d')).tail)
  | '\\' :: c :: rest => some (escapedChar c, rest)
  | c :: rest => some (c, rest)

/-- What stands for a character is read as that character, whatever follows. -/
theorem unquoteChar?_quoteChar
    (c : Char)
    (rest : List Char) :
    unquoteChar? (quoteChar c ++ rest) = some (c, rest) := by
  unfold quoteChar
  split_ifs with isQuote isBackslash isFeed isReturn isTab isNull isHidden
  · subst isQuote
    rfl
  · subst isBackslash
    rfl
  · subst isFeed
    rfl
  · subst isReturn
    rfl
  · subst isTab
    rfl
  · have same : c = '\x00' := Char.toNat_inj.1 isNull
    subst same
    rfl
  · have isDigit : ∀ digit ∈ hexadecimal c.toNat, decide (digit ≠ '\x7d') = true := by
      intro digit member
      exact decide_eq_true fun same => not_mem_hexadecimal c.toNat (same ▸ member)
    have digits : (hexadecimal c.toNat ++ '\x7d' :: rest).takeWhile (· ≠ '\x7d') =
        hexadecimal c.toNat := by
      rw [List.takeWhile_append_of_pos isDigit]
      simp
    have after : (hexadecimal c.toNat ++ '\x7d' :: rest).dropWhile (· ≠ '\x7d') =
        '\x7d' :: rest := by
      rw [List.dropWhile_append_of_pos isDigit]
      simp
    simp only [List.cons_append, List.nil_append, List.append_assoc]
    rw [unquoteChar?, digits, after, readHexadecimal_hexadecimal, Char.ofNat_toNat]
    rfl
  · rw [List.singleton_append, unquoteChar?.eq_def]
    split <;> simp_all

/-- Texts whose characters are written alike are the same. -/
theorem flatMap_quoteChar_inj
    {left right : List Char}
    (same : left.flatMap quoteChar = right.flatMap quoteChar) :
    left = right := by
  induction left generalizing right with
  | nil =>
      cases right with
      | nil => rfl
      | cons d right =>
          have read := unquoteChar?_quoteChar d (right.flatMap quoteChar)
          rw [← List.flatMap_cons, ← same] at read
          cases read
  | cons c left inductionHypothesis =>
      have read := unquoteChar?_quoteChar c (left.flatMap quoteChar)
      rw [← List.flatMap_cons, same] at read
      cases right with
      | nil => cases read
      | cons d right =>
          rw [List.flatMap_cons, unquoteChar?_quoteChar, Option.some.injEq, Prod.mk.injEq] at read
          obtain ⟨rfl, rest⟩ := read
          rw [inductionHypothesis rest.symm]

/-- No two texts are quoted alike. -/
theorem quote_inj
    {left right : String} :
    quote left = quote right ↔ left = right := by
  constructor
  · intro same
    unfold quote at same
    have written := List.cons.inj (String.ofList_inj.1 same) |>.2
    exact String.toList_inj.1 (flatMap_quoteChar_inj (List.append_cancel_right written))
  · rintro rfl
    rfl

end Text
end SchemaBinding
