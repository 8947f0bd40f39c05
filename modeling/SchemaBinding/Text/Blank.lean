/-!
# White space

Blanks as Unicode counts them, and text without the blanks at its ends.
-/

namespace SchemaBinding
namespace Text

/-- Characters with the Unicode property `White_Space`. -/
def isBlank (c : Char) : Bool :=
  let code := c.toNat
  (0x9 ≤ code && code ≤ 0xD) || code == 0x20 || code == 0x85 || code == 0xA0 || code == 0x1680 ||
    (0x2000 ≤ code && code ≤ 0x200A) || code == 0x2028 || code == 0x2029 || code == 0x202F ||
    code == 0x205F || code == 0x3000

/-- Text without its longest end on which a test holds throughout. -/
def dropEndWhile (test : Char → Bool) (text : List Char) : List Char :=
  (text.reverse.dropWhile test).reverse

/-- Text without the characters at either end on which a test holds. -/
def trimWhile (test : Char → Bool) (text : List Char) : List Char :=
  dropEndWhile test (text.dropWhile test)

/-- Text without blanks at its ends. -/
def trim (text : String) : String :=
  .ofList (trimWhile isBlank text.toList)

end Text
end SchemaBinding
