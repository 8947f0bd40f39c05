/-!
# Scanners

A scanner reads something from the front of a text, or fails, and leaves the rest.  The rest is
never longer than the text, and its type says so: this is why everything that is built of scanners
comes to an end.
-/

namespace SchemaBinding
namespace Xml

/-- What is left of a text: never more than there was. -/
structure Rest (text : List Char) where
  /-- The characters that are left. -/
  chars : List Char
  /-- They are no more than the text had. -/
  length_le : chars.length ≤ text.length

/-- Reads a value from the front of a text, or fails. -/
def Scanner (α : Type) : Type :=
  (text : List Char) → Option (α × Rest text)

namespace Scanner

variable {α β : Type}

/-- Reads nothing. -/
def succeed (value : α) : Scanner α :=
  fun text => some (value, ⟨text, Nat.le_refl _⟩)

/-- Reads one thing after another. -/
def andThen (scan : Scanner α) (next : α → Scanner β) : Scanner β :=
  fun text =>
    match scan text with
    | none => none
    | some (value, middle) =>
        match next value middle.chars with
        | none => none
        | some (result, rest) =>
            some (result, ⟨rest.chars, Nat.le_trans rest.length_le middle.length_le⟩)

instance : Monad Scanner where
  pure := succeed
  bind := andThen

/-- Reads nothing that could be right. -/
def fail : Scanner α :=
  fun _ => none

/-- Fails unless a condition holds. -/
def require (condition : Bool) : Scanner Unit :=
  if condition then succeed () else fail

/-- The value that there is, or failure. -/
def given : Option α → Scanner α
  | some value => succeed value
  | none => fail

/-- The text that is left, which stays to be read. -/
def ahead : Scanner (List Char) :=
  fun text => some (text, ⟨text, Nat.le_refl _⟩)

/-- Whether a given text stands next. -/
def sees (expected : String) : Scanner Bool :=
  fun text => some (expected.toList.isPrefixOf text, ⟨text, Nat.le_refl _⟩)

/-- Leaves out a number of characters. -/
def skip (count : Nat) : Scanner Unit :=
  fun text => some ((), ⟨text.drop count, by simp⟩)

/-- Reads a given text. -/
def expect (expected : String) : Scanner Unit := do
  require (← sees expected)
  skip expected.length

/-- Reads a given text if it stands next, and says whether it did. -/
def accept (expected : String) : Scanner Bool := do
  if ← sees expected then
    skip expected.length
    return true
  else
    return false

/-- The characters up to the first on which a test fails. -/
def takeWhile (test : Char → Bool) : Scanner (List Char) :=
  fun text => some (text.takeWhile test, ⟨text.dropWhile test, (text.dropWhile_sublist test).length_le⟩)

/-- The characters before the first place where a given text stands, or all if it stands nowhere. -/
def before (stop : List Char) : List Char → List Char
  | [] => []
  | c :: rest => if stop.isPrefixOf (c :: rest) then [] else c :: before stop rest

/-- Whether a text stands somewhere in another. -/
def occurs (part : List Char) : List Char → Bool
  | [] => part.isEmpty
  | c :: rest => part.isPrefixOf (c :: rest) || occurs part rest

/-- Reads the characters before a given text, and then that text. -/
def takeThrough (stop : String) : Scanner (List Char) := do
  let found := before stop.toList (← ahead)
  skip found.length
  expect stop
  return found

/--
Reads things as long as there are more.  A step that finds one more without reading anything makes
the whole fail.
-/
def many (step : Scanner (Option α)) (text : List Char) : Option (List α × Rest text) :=
  match step text with
  | none => none
  | some (none, rest) => some ([], rest)
  | some (some value, middle) =>
      if _ : middle.chars.length < text.length then
        match many step middle.chars with
        | none => none
        | some (values, rest) =>
            some (value :: values, ⟨rest.chars, Nat.le_trans rest.length_le middle.length_le⟩)
      else none
termination_by text.length

/-- Reads all of a text, or fails. -/
def run (scan : Scanner α) (text : List Char) : Option α :=
  match scan text with
  | some (value, ⟨[], _⟩) => some value
  | _ => none

end Scanner
end Xml
end SchemaBinding
