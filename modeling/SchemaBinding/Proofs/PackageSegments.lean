import SchemaBinding.Proofs.FullNames
import SchemaBinding.Proofs.Identifiers

/-!
# Segments of package names

The package of a namespace consists of segments with dots between them, one for each part of the
namespace that has a letter or a digit of ASCII.  The parts are mapped to characters that may stand
in a segment, trimmed, and made usable; those that are left empty are dropped last, so that nothing
empty comes between two dots, whatever the namespace is.
-/

namespace SchemaBinding

/-- Dots that begin a text, end it or follow each other have an empty part beside them. -/
theorem dots_apart_of_nil_not_mem_splitOn
    {text : List Char}
    (nonempty : [] ∉ text.splitOn '.') :
    text.head? ≠ some '.' ∧ text.getLast? ≠ some '.' ∧ ¬['.', '.'] <:+: text := by
  have split : ∀ before after : List Char, (before ++ '.' :: after).splitOn '.' =
      before.splitOn '.' ++ after.splitOn '.' := fun before after =>
    List.splitOnP_append_cons before after rfl
  have empty : [] ∈ ([] : List Char).splitOn '.' := List.mem_singleton_self _
  refine ⟨?_, ?_, ?_⟩
  · intro first
    obtain ⟨rest, rfl⟩ := List.head?_eq_some_iff.1 first
    exact nonempty (split [] rest ▸ List.mem_append_left _ empty)
  · intro last
    obtain ⟨start, rfl⟩ := List.getLast?_eq_some_iff.1 last
    exact nonempty (split start [] ▸ List.mem_append_right _ empty)
  · rintro ⟨before, after, rfl⟩
    have doubled : (before ++ ['.', '.'] ++ after).splitOn '.' =
        before.splitOn '.' ++ (([] : List Char).splitOn '.' ++ after.splitOn '.') := by
      rw [← split [] after, ← split, List.append_assoc]
      rfl
    rw [doubled] at nonempty
    exact nonempty (List.mem_append_right _ (List.mem_append_left _ empty))

namespace Schema

/-- Whether a character is a small letter or a digit of ASCII, or an underscore. -/
def IsSegmentCharacter (c : Char) : Prop :=
  ('a' ≤ c ∧ c ≤ 'z') ∨ ('0' ≤ c ∧ c ≤ '9') ∨ c = '_'

instance (c : Char) : Decidable (IsSegmentCharacter c) :=
  inferInstanceAs (Decidable (_ ∨ _))

/-- Whether a text can stand between the dots of the package of a namespace. -/
structure IsSegment (segment : String) : Prop where
  /-- It is not empty. -/
  nonempty : segment ≠ ""
  /-- It has small letters, digits and underscores only. -/
  characters : ∀ c ∈ segment.toList, IsSegmentCharacter c
  /-- It does not begin with a digit. -/
  not_digit : ∀ c ∈ segment.toList.head?, ¬('0' ≤ c ∧ c ≤ '9')
  /-- It is not reserved. -/
  not_reserved : segment ∉ reservedNames

theorem not_endsName_of_isSegmentCharacter
    {c : Char}
    (isCharacter : IsSegmentCharacter c) :
    ¬EndsName c := by
  rintro (rfl | rfl | rfl) <;> revert isCharacter <;> decide

theorem isSegmentCharacter_packageCharacter
    (c : Char) :
    IsSegmentCharacter (packageCharacter c) := by
  have ascii : ∀ code < 128, IsSegmentCharacter (packageCharacter (Char.ofNat code)) := by
    decide +kernel
  by_cases alphanumeric : c.isAlphanum
  · rw [← Char.ofNat_toNat c]
    exact ascii c.toNat (lt_of_isAlphanum alphanumeric)
  · rw [packageCharacter, if_neg alphanumeric]
    decide

theorem mem_of_mem_usable
    {name : List Char}
    {c : Char}
    (member : c ∈ usable name) :
    c = '_' ∨ c ∈ name := by
  unfold usable at member
  split_ifs at member <;> grind

theorem isSegmentCharacter_of_mem_packagePart
    {part : List Char}
    {c : Char}
    (member : c ∈ packagePart part) :
    IsSegmentCharacter c := by
  rcases mem_of_mem_usable member with rfl | inside
  · decide
  · obtain ⟨source, _, rfl⟩ := List.mem_map.1 (mem_of_mem_trimWhile inside)
    exact isSegmentCharacter_packageCharacter source

theorem isSegment_of_mem_packageParts
    {uri : String}
    {part : List Char}
    (isPart : part ∈ packageParts uri) :
    IsSegment (.ofList part) := by
  have identifier := isSimpleIdentifier_of_mem_packageParts isPart
  refine ⟨identifier.nonempty, ?_, ?_, identifier.not_reserved⟩
  · intro c member
    rw [String.toList_ofList] at member
    obtain ⟨source, _, rfl⟩ := List.mem_map.1 (List.mem_filter.1 isPart).1
    exact isSegmentCharacter_of_mem_packagePart member
  · intro c isFirst digit
    have notDigit := identifier.not_digit c isFirst
    simp [Text.isDigit, digit] at notDigit

theorem length_packageParts
    (uri : String) :
    (packageParts uri).length =
      (namespaceParts uri.toList).countP fun part => part.any Char.isAlphanum := by
  rw [packageParts, ← List.countP_eq_length_filter, List.countP_map]
  apply List.countP_congr
  intro part _
  have empty_iff : packagePart part = [] ↔ ∀ c ∈ part, c.isAlphanum = false :=
    packagePart_eq_nil_iff
  simp [empty_iff]

theorem nil_not_mem_splitOn_packageOfNamespace
    {uri : String}
    (nonempty : packageParts uri ≠ []) :
    [] ∉ (packageOfNamespace uri).toList.splitOn '.' := by
  rw [toList_packageOfNamespace, List.splitOn_intercalate _ _ nonempty]
  · intro isPart
    exact (isSegment_of_mem_packageParts isPart).nonempty rfl
  · intro part isPart
    have undotted := (isSimpleIdentifier_of_mem_packageParts isPart).not_dotted
    rwa [String.toList_ofList] at undotted

theorem unbracketed_packageOfNamespace
    (uri : String) :
    Unbracketed (packageOfNamespace uri) := by
  intro c member
  rw [toList_packageOfNamespace] at member
  rcases mem_intercalate member with rfl | ⟨part, isPart, inside⟩
  · decide
  · apply not_endsName_of_isSegmentCharacter
    apply (isSegment_of_mem_packageParts isPart).characters
    rwa [String.toList_ofList]

/-- The package of a namespace consists of segments with dots between them, as many as the
namespace has parts with a letter or digit of ASCII.  None of them is empty, begins with a digit or
is reserved, and they have small letters, digits and underscores only.  So no dot begins or ends the
package or follows another one; there is nothing in it that arguments of types are written with, and
a type of the package whose name is free of that, and of dots, is known by its full name. -/
theorem packageOfNamespace_segments
    (uri : String) :
    (∃ segments, packageOfNamespace uri = ".".intercalate segments ∧
        (∀ segment ∈ segments, IsSegment segment) ∧
        segments.length =
          (namespaceParts uri.toList).countP fun part => part.any Char.isAlphanum) ∧
      (packageOfNamespace uri).toList.head? ≠ some '.' ∧
      (packageOfNamespace uri).toList.getLast? ≠ some '.' ∧
      ¬['.', '.'] <:+: (packageOfNamespace uri).toList ∧
      Unbracketed (packageOfNamespace uri) ∧
      ∀ name other, Unbracketed name → '.' ∉ name.toList → other.Readable →
        (TypeRef.reference (packageOfNamespace uri) name).fullName = other.fullName →
          TypeRef.reference (packageOfNamespace uri) name = other := by
  have apart : (packageOfNamespace uri).toList.head? ≠ some '.' ∧
      (packageOfNamespace uri).toList.getLast? ≠ some '.' ∧
      ¬['.', '.'] <:+: (packageOfNamespace uri).toList := by
    by_cases nonempty : packageParts uri = []
    · rw [toList_packageOfNamespace, nonempty]
      decide
    · exact dots_apart_of_nil_not_mem_splitOn (nil_not_mem_splitOn_packageOfNamespace nonempty)
  have unbracketed := unbracketed_packageOfNamespace uri
  refine ⟨⟨_, rfl, ?_, ?_⟩, apart.1, apart.2.1, apart.2.2, unbracketed, ?_⟩
  · exact List.forall_mem_map.2 fun _ => isSegment_of_mem_packageParts
  · rw [List.length_map]
    exact length_packageParts uri
  · intro name other nameUnbracketed undotted otherReadable same
    have readable := TypeRef.readable_reference unbracketed nameUnbracketed undotted
    exact readable.eq_of_fullName_eq otherReadable same

-- Empty parts, digits and reserved names, on the paths of host and path.
example : packageOfNamespace "http://www..Example.com:80/2024//class/.xsd" =
    "com.example._2024.class_" := by
  decide +kernel

end Schema
end SchemaBinding
