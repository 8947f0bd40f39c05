import Mathlib.Tactic.SplitIfs
import SchemaBinding.Text.Decoding

/-!
# The order of octets

Text is ordered by its characters.  UTF-8 keeps that order: the octets of a lesser character come
first, so that text which comes before other text also does so as octets.
-/

namespace SchemaBinding
namespace Text
namespace Utf8

/-- The greatest digit to the base 64 in which two numbers differ decides, among the last four. -/
theorem digits_lt
    {low high : Nat}
    (less : low < high) :
    low / 262144 < high / 262144 ∨ low / 262144 = high / 262144 ∧
      (low / 4096 % 64 < high / 4096 % 64 ∨ low / 4096 % 64 = high / 4096 % 64 ∧
        (low / 64 % 64 < high / 64 % 64 ∨ low / 64 % 64 = high / 64 % 64 ∧
          low % 64 < high % 64)) := by
  have lastDigit : ∀ {low high : Nat}, low < high →
      low / 64 < high / 64 ∨ low / 64 = high / 64 ∧ low % 64 < high % 64 := by
    omega
  have split : ∀ code : Nat,
      code / 4096 = code / 64 / 64 ∧ code / 262144 = code / 64 / 64 / 64 := by
    intro code
    simp only [Nat.div_div_eq_div_mul, Nat.reduceMul, and_self]
  rw [(split low).1, (split high).1, (split low).2, (split high).2]
  rcases lastDigit less with above | ⟨same, last⟩
  · rcases lastDigit above with above | ⟨same, last⟩
    · rcases lastDigit above with above | ⟨same, last⟩
      · exact .inl above
      · exact .inr ⟨same, .inl last⟩
    · exact .inr ⟨by rw [same], .inr ⟨by rw [same], .inl last⟩⟩
  · exact .inr ⟨by rw [same], .inr ⟨by rw [same], .inr ⟨by rw [same], last⟩⟩⟩

/-- The octets of a lesser character come first, whatever follows. -/
theorem utf8EncodeChar_append_lt
    {left right : Char}
    (before : left < right)
    (leftRest rightRest : List UInt8) :
    String.utf8EncodeChar left ++ leftRest < String.utf8EncodeChar right ++ rightRest := by
  have less : left.val.toNat < right.val.toNat := before
  have bound : right.val.toNat < 0x110000 := by
    have valid := right.valid
    simp only [UInt32.isValidChar, Nat.isValidChar] at valid
    omega
  simp only [String.utf8EncodeChar]
  generalize left.val.toNat = low at less ⊢
  generalize right.val.toNat = high at less bound ⊢
  have digits := digits_lt less
  -- Characters of different lengths differ in the first octet, the others in one of their digits.
  split_ifs <;>
    simp (disch := omega) only [List.cons_append, List.nil_append, List.cons_lt_cons_iff,
      UInt8.lt_iff_toNat_lt, ← UInt8.toNat_inj, UInt8.toNat_ofNat', Nat.reducePow,
      Nat.mod_eq_of_lt] <;>
    omega

theorem flatMap_utf8EncodeChar_lt
    {left right : List Char}
    (before : left < right) :
    left.flatMap String.utf8EncodeChar < right.flatMap String.utf8EncodeChar := by
  induction left generalizing right with
  | nil =>
      cases right with
      | nil => exact absurd before (List.not_lt_nil _)
      | cons first rest =>
          rw [List.flatMap_nil, List.flatMap_cons]
          cases octets : String.utf8EncodeChar first with
          | nil =>
              have length := String.length_utf8EncodeChar first
              have positive := first.utf8Size_pos
              rw [octets, List.length_nil] at length
              omega
          | cons octet others => exact List.nil_lt_cons _ _
  | cons first rest inductionHypothesis =>
      cases right with
      | nil => exact absurd before (List.not_lt_nil _)
      | cons other others =>
          rw [List.flatMap_cons, List.flatMap_cons]
          rcases List.cons_lt_cons_iff.1 before with less | ⟨rfl, less⟩
          · exact utf8EncodeChar_append_lt less _ _
          · exact List.append_left_lt (inductionHypothesis less)

/-- Text that comes before other text also comes before it as octets. -/
theorem encode_lt
    {left right : String}
    (before : left < right) :
    encode left < encode right :=
  flatMap_utf8EncodeChar_lt (String.lt_iff.1 before)

end Utf8
end Text
end SchemaBinding
