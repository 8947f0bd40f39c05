import SchemaBinding.Text.Blank
import SchemaBinding.Text.Quoted

/-!
# The first difference of two texts

Where two texts that should be the same first differ, line by line.  Every character counts, line
breaks included: lines that look the same without their line breaks are shown in quotes.
-/

namespace SchemaBinding

/-- The lines of a text, each with the line feed that ends it. -/
def linesOf : List Char → List (List Char)
  | [] => []
  | c :: rest =>
      if c = '\n' then [c] :: linesOf rest
      else
        match linesOf rest with
        | [] => [[c]]
        | line :: lines => (c :: line) :: lines

/-- A place where two texts differ. -/
structure Difference where
  /-- The number of the line, counting from one. -/
  number : Nat
  /-- The line of the expected text, if it is that long. -/
  expected : Option (List Char)
  /-- The line of the actual text, if it is that long. -/
  actual : Option (List Char)
deriving DecidableEq, Repr

namespace Difference

/-- The first difference of two lists of lines, whose first lines have a given number. -/
def ofLines (number : Nat) : (expected actual : List (List Char)) → Option Difference
  | [], [] => none
  | expected :: _, [] => some ⟨number, some expected, none⟩
  | [], actual :: _ => some ⟨number, none, some actual⟩
  | expected :: moreExpected, actual :: moreActual =>
      if expected = actual then ofLines (number + 1) moreExpected moreActual
      else some ⟨number, some expected, some actual⟩

/-- The first difference of two texts. -/
def first? (expected actual : String) : Option Difference :=
  ofLines 1 (linesOf expected.toList) (linesOf actual.toList)

/-- A line without the characters that break it. -/
def lineContent (line : List Char) : List Char :=
  Text.dropEndWhile (fun c => c = '\r' || c = '\n') line

/-- Whether the lines differ only in how they are broken. -/
def onlyInBreaks (difference : Difference) : Bool :=
  difference.expected.map lineContent = difference.actual.map lineContent

/-- A line as it is shown. -/
def shownLine (quoted : Bool) : Option (List Char) → String
  | none => "<end of file>"
  | some line => if quoted then Text.quote (.ofList line) else .ofList (lineContent line)

/-- The difference as it is shown. -/
def text (difference : Difference) : String :=
  let shown := shownLine difference.onlyInBreaks
  "line " ++ toString difference.number ++ ":\n  expected: " ++ shown difference.expected ++
    "\n  actual:   " ++ shown difference.actual

end Difference
end SchemaBinding
