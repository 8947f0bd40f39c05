import SchemaBinding.Text.CharClass.CaseRuns

/-!
# Case mapping

The full case mappings of a character, taken without regard to its surroundings.  A character may
become several: the upper case of `ß` is `SS`.
-/

namespace SchemaBinding
namespace Text

/-- The single code point that a code point becomes, if a run moves it. -/
def CaseRun.image? (runs : List CaseRun) (code : Nat) : Option Nat :=
  (runs.find? (·.source.contains code)).map fun run => run.image + (code - run.source.first)

/-- A character under a case mapping; one that the mapping does not list stays as it is. -/
def mapCase (runs : List CaseRun) (expansions : List (Nat × List Nat)) (c : Char) : List Char :=
  match expansions.lookup c.toNat with
  | some codes => codes.map Char.ofNat
  | none =>
      match CaseRun.image? runs c.toNat with
      | some code => [Char.ofNat code]
      | none => [c]

/-- The lower case of a character. -/
def lower (c : Char) : List Char :=
  mapCase lowerRuns lowerExpansions c

/-- The upper case of a character. -/
def upper (c : Char) : List Char :=
  mapCase upperRuns upperExpansions c

end Text
end SchemaBinding
