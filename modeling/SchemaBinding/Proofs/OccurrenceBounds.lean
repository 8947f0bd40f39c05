import Mathlib.Data.List.Induction
import Mathlib.Data.Nat.Digits.Defs
import SchemaBinding.Proofs.ReachedTypes
import SchemaBinding.Proofs.SchemaSignatures
import SchemaBinding.Proofs.UnreadBounds

/-!
# Bounds on occurrences

Which bounds on the occurrences of elements and groups a schema may have.  A malformed bound is a reason
to refuse the schema, but only where no group around it is repeated.  The bounds inside a repeated group
are not looked at, so that nothing comes of them, whether they are malformed or not.
-/

namespace SchemaBinding
namespace Schema

open Xml (Spot)

/-! ## Malformed bounds -/

/-- Whether a text is that of a number: decimal digits, which may follow a plus sign. -/
def IsNumeral (text : List Char) (number : Nat) : Prop :=
  ∃ digits, (text = digits ∨ text = '+' :: digits) ∧ digits ≠ [] ∧
    (∀ c ∈ digits, '0' ≤ c ∧ c ≤ '9') ∧
    number = Nat.ofDigits 10 (digits.reverse.map fun c => c.toNat - '0'.toNat)

/-- Whether an element has a malformed bound: apart from the blanks around it, the bound is neither
`unbounded` nor a number of at most 64 bits. -/
def IsMalformed (tag : Xml.Tag) : Prop :=
  ∃ bound, tag.attribute? "maxOccurs" = some bound ∧ Text.trim bound ≠ "unbounded" ∧
    ∀ number, IsNumeral (Text.trim bound).toList number → 2 ^ 64 ≤ number

/-- Whether an element has a bound above one that is not malformed. -/
def IsRepeated (tag : Xml.Tag) : Prop :=
  IsMany tag ∧ ¬IsMalformed tag

/-! ## Reading bounds -/

section Numerals

variable {text : List Char} {number : Nat}

/-- Digits are read from the left, one after the other. -/
theorem foldl_digits
    (digits : List Char) :
    digits.foldl (fun number c => number * 10 + (c.toNat - '0'.toNat)) 0 =
      Nat.ofDigits 10 (digits.reverse.map fun c => c.toNat - '0'.toNat) := by
  induction digits using List.reverseRecOn with
  | nil => rfl
  | append_singleton digits c inductionHypothesis =>
      rw [List.foldl_concat, inductionHypothesis, List.reverse_concat, List.map_cons,
        Nat.ofDigits_cons]
      omega

/-- The digits of a text that is read as a number. -/
def digitsOf (text : List Char) : List Char :=
  match text with
  | '+' :: rest => rest
  | _ => text

theorem digitsOf_of_digits
    (digits : ∀ c ∈ text, '0' ≤ c ∧ c ≤ '9') :
    digitsOf text = text := by
  unfold digitsOf
  split
  · exact absurd (digits '+' List.mem_cons_self) (by decide)
  · rfl

theorem digitsOf_cases
    (text : List Char) :
    text = digitsOf text ∨ text = '+' :: digitsOf text := by
  unfold digitsOf
  split
  · exact .inr rfl
  · exact .inl rfl

theorem natural?_eq_some_iff :
    natural? text = some number ↔ IsNumeral text number := by
  have read : natural? text =
      if (digitsOf text).isEmpty || !(digitsOf text).all Text.isDigit then none
      else some (Nat.ofDigits 10 ((digitsOf text).reverse.map fun c => c.toNat - '0'.toNat)) := by
    rw [← foldl_digits]
    rfl
  have areDigits_iff (digits : List Char) :
      ¬(digits.isEmpty || !digits.all Text.isDigit) = true ↔
        digits ≠ [] ∧ ∀ c ∈ digits, '0' ≤ c ∧ c ≤ '9' := by
    simp [Text.isDigit]
  rw [read]
  constructor
  · intro isNumber
    split_ifs at isNumber with fails
    obtain ⟨nonempty, digits⟩ := (areDigits_iff _).1 fails
    exact ⟨digitsOf text, digitsOf_cases text, nonempty, digits, (Option.some.inj isNumber).symm⟩
  · rintro ⟨digits, split, nonempty, areDigits, rfl⟩
    have same : digitsOf text = digits := by
      rcases split with rfl | rfl
      · exact digitsOf_of_digits areDigits
      · rfl
    rw [same, if_neg ((areDigits_iff digits).2 ⟨nonempty, areDigits⟩)]

end Numerals

/-- Bounds are refused if they are malformed. -/
theorem repeated_eq_error_iff
    {tag : Xml.Tag} :
    (∃ error, repeated tag = .error error) ↔ IsMalformed tag := by
  unfold repeated IsMalformed
  cases tag.attribute? "maxOccurs" with
  | none => simp
  | some bound =>
      dsimp only
      simp only [Option.some.injEq, exists_eq_left', allowsMany, ← natural?_eq_some_iff]
      split_ifs with isUnbounded
      · simp [isUnbounded]
      · split
        next number isNumber =>
          split_ifs with small
          · simp [isUnbounded, isNumber]
            omega
          · simp [isUnbounded, isNumber]
            omega
        next noNumber => simp [isUnbounded, noNumber]

theorem repeated_eq_ok_true_iff
    {tag : Xml.Tag} :
    repeated tag = .ok true ↔ IsRepeated tag := by
  unfold IsRepeated
  rw [← repeated_eq_error_iff]
  constructor
  · intro isRepeated
    refine ⟨(repeated_eq_ok isRepeated).1 rfl, fun ⟨error, fails⟩ => ?_⟩
    rw [isRepeated] at fails
    cases fails
  · rintro ⟨isMany, sound⟩
    cases isRepeated : repeated tag with
    | error error => exact absurd ⟨error, isRepeated⟩ sound
    | ok many => rw [(repeated_eq_ok isRepeated).2 isMany]

theorem anyRepeated_iff_isRepeated
    {around : List Xml.Tag} :
    anyRepeated around ↔ ∃ tag ∈ around, IsRepeated tag := by
  have repeats_iff (tag : Xml.Tag) : (repeated tag).toOption = some true ↔ IsRepeated tag := by
    rw [← repeated_eq_ok_true_iff]
    cases repeated tag <;> simp [Except.toOption]
  simp only [anyRepeated, List.any_eq_true, decide_eq_true_eq, repeats_iff]

/-! ## Schemas with malformed bounds -/

section Bounds

variable {options : BindingOptions} {document : Xml.Document} {portraits : List Portrait}
  {type : ComplexType} {item : Item}

/-- Bounds that are looked at are not malformed if classes are made for a document. -/
theorem Describes.exists_repeats
    (describes : Describes options document portraits)
    (binds : Binds document type)
    (mapped : Mapped type.spot item)
    (isPart : item.role = .group ∨ item.role = .particle) :
    ∃ many, item.repeats = .ok many := by
  rcases isPart with isGroup | isParticle
  · exact describes.group_repeats binds mapped isGroup
  · obtain ⟨field, made⟩ := describes.exists_particleField binds mapped isParticle
    obtain ⟨many, isMany, _⟩ := bind_eq_ok_iff.1 made
    exact ⟨many, isMany⟩

/-- A schema is refused for a malformed bound if no group around it is repeated. -/
theorem refused_of_isMalformed
    (binds : Binds document type)
    (mapped : Mapped type.spot item)
    (isPart : item.role = .group ∨ item.role = .particle)
    (isMalformed : IsMalformed item.spot.tag)
    (noneAround : ∀ tag ∈ item.around, ¬IsRepeated tag)
    (outline : Outline) :
    (bindXml options document).1 ≠ .ok outline := by
  intro accepted
  obtain ⟨portraits, describes, _⟩ := depicts_of_accepted accepted
  obtain ⟨many, isMany⟩ := describes.exists_repeats binds mapped isPart
  have notAround : ¬anyRepeated item.around := by
    rw [anyRepeated_iff_isRepeated]
    exact fun ⟨tag, member, isRepeated⟩ => noneAround tag member isRepeated
  obtain ⟨error, fails⟩ := repeated_eq_error_iff.2 isMalformed
  rw [Item.repeats, if_neg notAround, fails] at isMany
  cases isMany

end Bounds

/-- A malformed bound of an element or group in a complex type is a reason to refuse the schema if no
group around it is repeated.  Inside repeated groups there is no such reason: a document is bound in the
same way if all bounds there are taken out. -/
theorem malformed_bounds
    (options : BindingOptions)
    {document : Xml.Document}
    {type : ComplexType}
    (binds : Binds document type) :
    (∀ item, Mapped type.spot item → item.role = .group ∨ item.role = .particle →
      IsMalformed item.spot.tag → (∀ tag ∈ item.around, ¬IsRepeated tag) →
        ∀ outline, (bindXml options document).1 ≠ .ok outline) ∧
      bindXml options (pruneDocument document) = bindXml options document :=
  ⟨fun _ mapped isPart isMalformed noneAround => refused_of_isMalformed binds mapped isPart
    isMalformed noneAround, bindXml_pruneDocument options document⟩

/-- A schema of boxes, with a bound of the group inside them and one of the things in it. -/
def boxSchema (outer inner : List (String × String)) : Xml.Document where
  root := ⟨schemaName "schema", [], []⟩
  children := [
    schemaNode "complexType" [("name", "Box")] [
      schemaNode "sequence" outer [schemaNode "element" (("name", "thing") :: inner) []]]]

/-- The tag of the group in a box. -/
def boxGroup (outer : List (String × String)) : Xml.Tag :=
  ⟨schemaName "sequence", [], outer.map fun (name, value) => ⟨⟨none, name⟩, value⟩⟩

/-- A malformed bound of the things in a box is one of a part of a complex type. -/
theorem exists_malformed_thing
    (outer : List (String × String)) :
    ∃ type item, Binds (boxSchema outer [("maxOccurs", " many ")]) type ∧ Mapped type.spot item ∧
      item.role = .particle ∧ IsMalformed item.spot.tag ∧ item.around = [boxGroup outer] := by
  obtain ⟨spot, group, thing, isType, isComplex, isGroupChild, isGroup, isThing, isElement, bound,
      tag⟩ :
      ∃ spot group thing,
        (boxSchema outer [("maxOccurs", " many ")]).spot.child? 0 = some spot ∧
        constructOf? spot.tag = some "complexType" ∧ spot.child? 0 = some group ∧
        constructOf? group.tag = some "sequence" ∧ group.child? 0 = some thing ∧
        constructOf? thing.tag = some "element" ∧
        thing.tag.attribute? "maxOccurs" = some " many " ∧ group.tag = boxGroup outer :=
    ⟨_, _, _, rfl, rfl, rfl, rfl, rfl, rfl, rfl, rfl⟩
  have mapped : Mapped spot ⟨[0, 0], .particle, [group.tag], thing⟩ :=
    .particle (.group .itself isGroupChild (by rw [IsGroup, isGroup]; decide)) isThing isElement
  refine ⟨_, _, .complexType isType isComplex, mapped, rfl, ⟨" many ", bound, by decide, ?_⟩, ?_⟩
  · intro number isNumeral
    have noNumber : natural? (Text.trim " many ").toList = none := by decide
    rw [← natural?_eq_some_iff, noNumber] at isNumeral
    cases isNumeral
  · rw [tag]

/-- A malformed bound is refused in a group without a bound. -/
theorem boxSchema_refused :
    ∃ type item, Binds (boxSchema [] [("maxOccurs", " many ")]) type ∧ Mapped type.spot item ∧
      IsMalformed item.spot.tag ∧
      ∀ outline, (bindXml {} (boxSchema [] [("maxOccurs", " many ")])).1 ≠ .ok outline := by
  obtain ⟨type, item, binds, mapped, isParticle, isMalformed, around⟩ := exists_malformed_thing []
  refine ⟨type, item, binds, mapped, isMalformed, ?_⟩
  refine (malformed_bounds {} binds).1 item mapped (.inr isParticle) isMalformed ?_
  rw [around]
  rintro tag member ⟨⟨bound, given, _⟩, _⟩
  obtain rfl := List.mem_singleton.1 member
  cases given

/-- The outline of the boxes, if there can be more than one thing in each. -/
def boxOutline : Outline where
  packages := ["generated"]
  classes := [⟨"Box", ⟨0⟩, none, [⟨0⟩], [], []⟩]
  fields := [⟨"thing", .listOf .object, ⟨0⟩⟩]
  types := [.reference "generated" "Box"]

/-- The same malformed bound is accepted in a repeated group, and so is the schema. -/
theorem repeatedBox_accepted :
    ∃ type item, Binds (boxSchema [("maxOccurs", "2")] [("maxOccurs", " many ")]) type ∧
      Mapped type.spot item ∧ item.role = .particle ∧ IsMalformed item.spot.tag ∧
      (bindXml {} (boxSchema [("maxOccurs", "2")] [("maxOccurs", " many ")])).1 = .ok boxOutline := by
  obtain ⟨type, item, binds, mapped, isParticle, isMalformed, _⟩ :=
    exists_malformed_thing [("maxOccurs", "2")]
  exact ⟨type, item, binds, mapped, isParticle, isMalformed, by decide +kernel⟩

end Schema
end SchemaBinding
