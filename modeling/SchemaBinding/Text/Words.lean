import SchemaBinding.Text.CharClass
import SchemaBinding.Text.CaseMapping

/-!
# Words

How a name falls into words, and how words are joined again into one name by their capitals.

A word ends at every character that is neither a letter nor a number.  Inside a run of such
characters it also ends where a capital follows small letters (`shipTo`), and before the last of
several capitals when a small letter follows (`USAddress` is `US` and `Address`).  Characters
without case, such as digits, continue the case before them.
-/

namespace SchemaBinding
namespace Text

/-- The case of the last cased character since a word began. -/
inductive WordCase where
  /-- No cased character has been read. -/
  | unknown
  /-- The last one was lower case. -/
  | lower
  /-- The last one was upper case. -/
  | upper
deriving DecidableEq, Repr

/-- The case after one more character. -/
def WordCase.next (state : WordCase) (c : Char) : WordCase :=
  if isLower c then .lower else if isUpper c then .upper else state

/--
The words of an alphanumeric run.  `current` holds the characters of the word being read, the last
one first.
-/
def runWords (state : WordCase) (current : List Char) : List Char → List (List Char)
  | [] => []
  | [c] => [(c :: current).reverse]
  | c :: next :: rest =>
      if state.next c = .lower && isUpper next then
        (c :: current).reverse :: runWords .unknown [] (next :: rest)
      else if state = .upper && isUpper c && isLower next then
        current.reverse :: runWords .unknown [c] (next :: rest)
      else
        runWords (state.next c) (c :: current) (next :: rest)

/-- The words of a name. -/
def words (name : List Char) : List (List Char) :=
  (name.splitOnP fun c => !isAlphanumeric c).flatMap (runWords .unknown [])

/-- A word in small letters; a sigma that ends it takes its final form. -/
def smallWord : List Char → List Char
  | [] => []
  | ['Σ'] => ['ς']
  | c :: rest => lower c ++ smallWord rest

/-- A word with a capital at its beginning. -/
def capitalWord : List Char → List Char
  | [] => []
  | c :: rest => upper c ++ smallWord rest

/-- The words of a name, each with a capital, written together: `ship-date` is `ShipDate`. -/
def upperCamel (name : List Char) : List Char :=
  (words name).flatMap capitalWord

/-- The words of a name, each but the first with a capital, written together: `shipDate`. -/
def lowerCamel (name : List Char) : List Char :=
  match words name with
  | [] => []
  | first :: rest => smallWord first ++ rest.flatMap capitalWord

end Text
end SchemaBinding
