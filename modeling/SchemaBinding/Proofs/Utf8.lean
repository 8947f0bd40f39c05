import Mathlib.Tactic.SplitIfs
import SchemaBinding.Text.Decoding

/-!
# Reading text back

Text that is written in UTF-8 is read back as it was: the octets of a character lead the reader from
the beginning of the character to its end, whatever follows.  So octets are read as a text without a
fault exactly if the text is written as these octets.
-/

namespace SchemaBinding
namespace Text
namespace Utf8

/-! ## The octets of a character -/

theorem decodeFrom_cons
    (state : State)
    (octet : UInt8)
    (rest : List UInt8) :
    decodeFrom state (octet :: rest) =
      (step state octet.toNat).1 ++ decodeFrom (step state octet.toNat).2 rest :=
  rfl

theorem toNat_ofNat_of_lt
    {octet : Nat}
    (bound : octet < 256) :
    (UInt8.ofNat octet).toNat = octet := by
  rw [UInt8.toNat_ofNat']
  exact Nat.mod_eq_of_lt bound

/-- An octet that continues a character, but does not end it. -/
theorem decodeFrom_inside
    {missing least greatest bits octet : Nat}
    (isLeast : least ≤ octet)
    (isGreatest : octet ≤ greatest)
    (bound : octet < 256)
    (rest : List UInt8) :
    decodeFrom (.inside (missing + 2) least greatest bits) (UInt8.ofNat octet :: rest) =
      decodeFrom (.inside (missing + 1) 0x80 0xBF (bits * 64 + (octet - 0x80))) rest := by
  rw [decodeFrom_cons, toNat_ofNat_of_lt bound]
  simp [step, isLeast, isGreatest]

/-- An octet that ends a character. -/
theorem decodeFrom_last
    {least greatest bits octet : Nat}
    (isLeast : least ≤ octet)
    (isGreatest : octet ≤ greatest)
    (bound : octet < 256)
    (rest : List UInt8) :
    decodeFrom (.inside 1 least greatest bits) (UInt8.ofNat octet :: rest) =
      Char.ofNat (bits * 64 + (octet - 0x80)) :: decodeFrom .between rest := by
  rw [decodeFrom_cons, toNat_ofNat_of_lt bound]
  simp [step, isLeast, isGreatest]

/-- The first octet of a character of two octets. -/
theorem first_two
    {digit : Nat}
    (isLeast : 2 ≤ digit)
    (bound : digit < 32) :
    first (digit + 0xC0) = ([], .inside 1 0x80 0xBF digit) := by
  unfold first
  rw [if_neg (by omega), if_pos (by simp; omega), Nat.add_sub_cancel]

/-- The first octet of a character of three octets.  Which octets may follow depends on it, so that
no character has a longer form and no surrogate has any. -/
theorem first_three
    {digit : Nat}
    (bound : digit < 16) :
    first (digit + 0xE0) =
      ([], .inside 2 (if digit = 0 then 0xA0 else 0x80) (if digit = 0xD then 0x9F else 0xBF)
        digit) := by
  unfold first
  rw [if_neg (by omega), if_neg (by simp)]
  by_cases isZero : digit = 0
  · subst isZero
    rfl
  · by_cases isLast : digit = 0xD
    · subst isLast
      rfl
    · rw [if_neg (by omega), if_neg (by omega), if_pos (by simp; omega), if_neg isZero,
        if_neg isLast, Nat.add_sub_cancel]

/-- The first octet of a character of four octets. -/
theorem first_four
    {digit : Nat}
    (bound : digit < 5) :
    first (digit + 0xF0) =
      ([], .inside 3 (if digit = 0 then 0x90 else 0x80) (if digit = 4 then 0x8F else 0xBF)
        digit) := by
  obtain rfl | rfl | rfl | rfl | rfl :
      digit = 0 ∨ digit = 1 ∨ digit = 2 ∨ digit = 3 ∨ digit = 4 := by
    omega
  all_goals rfl

/-- The octets of a character are read as the character, whatever follows. -/
theorem decodeFrom_utf8EncodeChar
    (c : Char)
    (rest : List UInt8) :
    decodeFrom .between (String.utf8EncodeChar c ++ rest) = c :: decodeFrom .between rest := by
  have valid := c.valid
  simp only [UInt32.isValidChar, Nat.isValidChar] at valid
  have same : Char.ofNat c.val.toNat = c := Char.ofNat_toNat c
  unfold String.utf8EncodeChar
  dsimp only
  generalize c.val.toNat = code at valid same
  -- By the number of octets: the digits of the code to the base 64 add up to the code again.
  split_ifs with one two three
  · rw [List.singleton_append, decodeFrom_cons, toNat_ofNat_of_lt (by omega)]
    simp [step, first, show code < 128 by omega, same]
  · have digits : code / 64 % 32 * 64 + (code % 64 + 128 - 0x80) = code := by omega
    simp only [List.cons_append, List.nil_append]
    rw [decodeFrom_cons, toNat_ofNat_of_lt (by omega), step, first_two (by omega) (by omega),
      decodeFrom_last (by omega) (by omega) (by omega), digits, same, List.nil_append]
  · have digits : (code / 4096 % 16 * 64 + (code / 64 % 64 + 128 - 0x80)) * 64 +
        (code % 64 + 128 - 0x80) = code := by omega
    simp only [List.cons_append, List.nil_append]
    rw [decodeFrom_cons, toNat_ofNat_of_lt (by omega), step, first_three (by omega),
      decodeFrom_inside (by split_ifs <;> omega) (by split_ifs <;> omega) (by omega),
      decodeFrom_last (by omega) (by omega) (by omega), digits, same, List.nil_append]
  · have digits : ((code / 262144 % 8 * 64 + (code / 4096 % 64 + 128 - 0x80)) * 64 +
        (code / 64 % 64 + 128 - 0x80)) * 64 + (code % 64 + 128 - 0x80) = code := by omega
    simp only [List.cons_append, List.nil_append]
    rw [decodeFrom_cons, toNat_ofNat_of_lt (by omega), step, first_four (by omega),
      decodeFrom_inside (by split_ifs <;> omega) (by split_ifs <;> omega) (by omega),
      decodeFrom_inside (by omega) (by omega) (by omega),
      decodeFrom_last (by omega) (by omega) (by omega), digits, same, List.nil_append]

/-! ## Texts -/

theorem decodeFrom_flatMap
    (text : List Char) :
    decodeFrom .between (text.flatMap String.utf8EncodeChar) = text := by
  induction text with
  | nil => rfl
  | cons c rest inductionHypothesis =>
      rw [List.flatMap_cons, decodeFrom_utf8EncodeChar, inductionHypothesis]

theorem decode_encode
    (text : String) :
    decode (encode text) = text.toList :=
  decodeFrom_flatMap text.toList

/-- Octets are read as a text exactly if the text is written as these octets. -/
theorem decode?_eq_some_iff
    {octets : List UInt8}
    {text : String} :
    decode? octets = some text ↔ octets = encode text := by
  unfold decode?
  dsimp only
  constructor
  · intro isText
    split_ifs at isText with whole
    rw [← Option.some.inj isText, whole]
  · rintro rfl
    rw [decode_encode, String.ofList_toList, if_pos rfl]

/-- Different texts are written differently. -/
theorem encode_inj
    {left right : String} :
    encode left = encode right ↔ left = right := by
  constructor
  · intro same
    have isLeft := decode?_eq_some_iff.2 (Eq.refl (encode left))
    rw [same, decode?_eq_some_iff.2 rfl] at isLeft
    exact (Option.some.inj isLeft).symm
  · rintro rfl
    rfl

/-- The octets of texts one after the other are those of the joined text. -/
theorem encode_join
    (pieces : List String) :
    encode (String.join pieces) = pieces.flatMap encode := by
  unfold encode
  rw [String.toList_join, List.flatMap_assoc]

end Utf8

/-- A file with a text that begins with an ASCII character has no mark at its beginning, so that the
text is read back. -/
theorem decode_encode_of_ascii
    {text : String}
    {c : Char}
    {rest : List Char}
    (starts : text.toList = c :: rest)
    (ascii : c.toNat < 0x80) :
    decode (Utf8.encode text) = text := by
  have octets : Utf8.encode text =
      UInt8.ofNat c.toNat :: rest.flatMap String.utf8EncodeChar := by
    have single : String.utf8EncodeChar c = [UInt8.ofNat c.toNat] :=
      if_pos (Nat.le_of_lt_succ ascii)
    rw [Utf8.encode, starts, List.flatMap_cons, single, List.singleton_append]
  have unmarked : decodeChars (Utf8.encode text) = Utf8.decode (Utf8.encode text) := by
    have first : (UInt8.ofNat c.toNat).toNat < 0x80 := by
      rw [Utf8.toNat_ofNat_of_lt (by omega)]
      exact ascii
    have notMark : ∀ {octet}, 0x80 ≤ octet.toNat → ∀ {others},
        Utf8.encode text ≠ octet :: others := by
      intro octet isHigh others same
      rw [octets] at same
      rw [(List.cons.inj same).1] at first
      exact absurd first (Nat.not_lt.2 isHigh)
    unfold decodeChars
    split
    next isMark => exact absurd isMark (notMark (by decide))
    next isMark => exact absurd isMark (notMark (by decide))
    next isMark => exact absurd isMark (notMark (by decide))
    next => rfl
  rw [decode, unmarked, Utf8.decode_encode, String.ofList_toList]

end Text
end SchemaBinding
