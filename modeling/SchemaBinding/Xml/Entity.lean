import SchemaBinding.Xml.Token

/-!
# Entities

Texts that a document declares and refers to by name.  An entity may refer to others; how deep
references nest, and how many are followed below the first, is bounded, so that no document grows
without end.
-/

namespace SchemaBinding
namespace Xml

/-- The entities of a document; of several with one name the first counts. -/
abbrev Entities := List (String × List Char)

/-- How deep references may nest. -/
def nestingLimit : Nat :=
  10

/-- How many references may be followed inside the text of one that stands in the document. -/
def referenceLimit : Nat :=
  255

/--
The references counted after one more, at a place where `levels` more may nest; those that stand in
the document itself are not counted.
-/
def countReference (levels counted : Nat) : Option Nat :=
  if levels = nestingLimit then some counted
  else if counted < referenceLimit then some (counted + 1)
  else none

/-- The references counted once a reference has been followed to its end. -/
def settleReferences (levels counted : Nat) : Nat :=
  if levels = nestingLimit then 0 else counted

/-- Line breaks and tabs become spaces in the value of an attribute. -/
def valueCharacter (c : Char) : Char :=
  if c = '\t' || c = '\n' || c = '\r' then ' ' else c

/--
The value that the pieces of an attribute denote, and the references counted afterwards.  Inside an
entity a reference to a character counts as that character, which cannot be `<`.
-/
def expandValue (entities : Entities) (levels counted : Nat) :
    List Piece → Option (List Char × Nat)
  | [] => some ([], counted)
  | .plain '\r' :: .plain '\n' :: rest => expandValue entities levels counted (.plain '\n' :: rest)
  | .plain c :: rest => do
      let (value, counted) ← expandValue entities levels counted rest
      return (valueCharacter c :: value, counted)
  | .reference (.character c) :: rest =>
      if levels = nestingLimit then do
        let (value, counted) ← expandValue entities levels counted rest
        return (c :: value, counted)
      else if c = '<' then none
      else do
        let (value, counted) ← expandValue entities levels counted rest
        return (valueCharacter c :: value, counted)
  | .reference (.entity name) :: rest =>
      match levels with
      | 0 => none
      | below + 1 => do
          let text ← entities.lookup name
          let counted ← countReference (below + 1) counted
          let pieces ← Scanner.piecesOf text
          let (inner, counted) ← expandValue entities below counted pieces
          let (value, counted) ←
            expandValue entities (below + 1) (settleReferences (below + 1) counted) rest
          return (inner ++ value, counted)
termination_by pieces => (levels, pieces.length)

end Xml
end SchemaBinding
