import SchemaBinding.Text.CharClass.Alphanumeric
import SchemaBinding.Text.CharClass.Lowercase
import SchemaBinding.Text.CharClass.Uppercase
import SchemaBinding.Text.CharClass.Invisible

/-!
# Character classes

Membership in the classes that names and quoted text depend on.  The classes are those of Unicode,
so that they agree on characters of every script.
-/

namespace SchemaBinding
namespace Text

/-- Letters and numbers of any script. -/
def isAlphanumeric (c : Char) : Bool :=
  inRanges alphanumericRanges c

/-- Lower-case characters of any script. -/
def isLower (c : Char) : Bool :=
  inRanges lowercaseRanges c

/-- Upper-case characters of any script. -/
def isUpper (c : Char) : Bool :=
  inRanges uppercaseRanges c

/-- Characters that have no form of their own on a printed line. -/
def isInvisible (c : Char) : Bool :=
  inRanges invisibleRanges c

/-- The decimal digits of ASCII. -/
def isDigit (c : Char) : Bool :=
  '0' ≤ c && c ≤ '9'

end Text
end SchemaBinding
