import SchemaBinding.Proofs.Reach
import SchemaBinding.Proofs.SchemaFields

/-!
# References of accepted schemas

Which references to types the content of the complex types of a schema leads to, through the elements
and attributes at the top that it refers to and through simple types.  In an accepted schema each of
them has a name that is declared or built in, and none of the simple types that they lead to is derived
from itself.
-/

namespace SchemaBinding
namespace Schema

open Relation (TransGen)
open Xml (Spot)

/-! ## Rules -/

/-- Whether the type of an element is one that it names, or a simple one. -/
def GivesType (spot : Spot) : Prop :=
  spot.tag.attribute? "type" ≠ none ∨ firstComplexType? spot = none

/-- Whether the content of a complex type that a class is made for refers to a name, by an element or
by an attribute that is not prohibited. -/
inductive RefersTo (document : Xml.Document) (role : Role) (name : ExpandedName) : Prop
  /-- By a part of the content. -/
  | part {type : ComplexType} {item : Item} {text : String} (binds : Binds document type)
      (mapped : Mapped type.spot item) (isRole : item.role = role)
      (allowed : role = .attributeUse → ¬IsProhibited item.spot)
      (isReference : item.spot.tag.attribute? "ref" = some text)
      (resolved : resolveName item.spot.scope text = .ok name) : RefersTo document role name

/-- Whether the content of a complex type that a class is made for leads to the use of a type. -/
inductive Reached (document : Xml.Document) : TypeUse → Prop
  /-- To the type of an element of a model group. -/
  | element {type : ComplexType} {item : Item} (binds : Binds document type)
      (mapped : Mapped type.spot item) (isParticle : item.role = .particle)
      (noReference : item.spot.tag.attribute? "ref" = none) (givesType : GivesType item.spot) :
      Reached document (typeUse item.spot.scope item.spot.tag item.spot.content)
  /-- To the type of an element at the top. -/
  | elementReference {name : ExpandedName} {index : Nat} {spot : Spot}
      (refers : RefersTo document .particle name)
      (declares : DeclaresName document "element" name index spot) (givesType : GivesType spot) :
      Reached document (typeUse spot.scope spot.tag spot.content)
  /-- To the type of an attribute that is not prohibited. -/
  | attributeUse {type : ComplexType} {item : Item} (binds : Binds document type)
      (mapped : Mapped type.spot item) (isAttribute : item.role = .attributeUse)
      (allowed : ¬IsProhibited item.spot) (noReference : item.spot.tag.attribute? "ref" = none) :
      Reached document (typeUse item.spot.scope item.spot.tag item.spot.content)
  /-- To the type of an attribute at the top. -/
  | attributeReference {name : ExpandedName} {index : Nat} {spot : Spot}
      (refers : RefersTo document .attributeUse name)
      (declares : DeclaresName document "attribute" name index spot) :
      Reached document (typeUse spot.scope spot.tag spot.content)
  /-- To the base of a derivation. -/
  | base {type : ComplexType} {item : Item} {text : String} (binds : Binds document type)
      (mapped : Mapped type.spot item) (isBase : item.role = .complexBase ∨ item.role = .simpleBase)
      (given : item.spot.tag.attribute? "base" = some text) :
      Reached document (.named (resolveName item.spot.scope text))
  /-- To the definition of a simple type at the top. -/
  | definition {name : ExpandedName} {index : Nat} {spot : Spot}
      (reached : Reached document (.named (.ok name)))
      (declares : DeclaresName document "simpleType" name index spot) :
      Reached document (.inline (simpleType spot.scope spot.content))
  /-- To the base of a restriction. -/
  | restriction {base : TypeUse} (reached : Reached document (.inline (.restriction base))) :
      Reached document base
  /-- To the items of a list. -/
  | list {item : TypeUse} (reached : Reached document (.inline (.list item))) :
      Reached document item

/-- Whether a type at the top of a document declares a name, or the name is that of a built-in type. -/
def IsType (document : Xml.Document) (name : ExpandedName) : Prop :=
  ¬NoType document name ∨ isBuiltin name

/-- Whether the use of a type names another one, perhaps inside restrictions and lists. -/
inductive Mentions : TypeUse → ExpandedName → Prop
  /-- The type is named. -/
  | named (name : ExpandedName) : Mentions (.named (.ok name)) name
  /-- The base of a restriction mentions the type. -/
  | restriction {base : TypeUse} {name : ExpandedName} (mentions : Mentions base name) :
      Mentions (.inline (.restriction base)) name
  /-- The items of a list mention the type. -/
  | list {item : TypeUse} {name : ExpandedName} (mentions : Mentions item name) :
      Mentions (.inline (.list item)) name

/-- Whether a simple type at the top is derived from another type, by restriction or as a list. -/
def SimplyDerived (document : Xml.Document) (name base : ExpandedName) : Prop :=
  ∃ index spot, DeclaresName document "simpleType" name index spot ∧
    Mentions (.inline (simpleType spot.scope spot.content)) base

/-! ## References -/

section References

variable {options : BindingOptions} {document : Xml.Document} {portraits : List Portrait}
  {outline : Outline} {type : ComplexType} {item : Item} {name : ExpandedName}

theorem usesType_elementAt_iff
    {spot : Spot}
    {classType : TypeRef} :
    (elementAt spot classType).UsesType ↔ GivesType spot := by
  unfold ElementDefinition.UsesType GivesType elementAt
  rw [Option.map_eq_none_iff]
  refine or_congr_left ⟨?_, ?_⟩
  · rintro ⟨name, isName⟩ noType
    exact typeUse_ne_named noType name isName
  · intro hasType
    by_contra notNamed
    exact hasType (noType_of_typeUse fun name isName => notNamed ⟨name, isName⟩)

theorem exists_resolveUse_of_elementType
    {globals : Globals}
    {element : ElementDefinition}
    {elementType : TypeRef}
    (resolved : globals.elementType element = .ok elementType)
    (usesType : element.UsesType) :
    ∃ type, globals.resolveUse [] element.type = .ok type := by
  obtain ⟨use, classType⟩ := element
  cases use with
  | named name => exact ⟨_, resolved⟩
  | inline definition =>
      cases classType with
      | none => exact ⟨_, resolved⟩
      | some type => rcases usesType with ⟨_, isName⟩ | noClass <;> simp_all
  | absent => exact ⟨.string, by rw [Globals.resolveUse]⟩

theorem exists_resolveType_of_resolveBase
    {globals : Globals}
    {kind : Base}
    (resolved : globals.resolveBase name = .ok kind) :
    ∃ type, globals.resolveType name = .ok type := by
  cases kind with
  | simple type => exact ⟨type, resolveType_of_resolveBase resolved⟩
  | complex id =>
      obtain ⟨type, declared⟩ := declares_of_resolveBase resolved
      exact ⟨type, resolveUse_of_complex declared⟩
  | any =>
      have isObject : builtinType? anyType = some .object := by decide
      unfold Globals.resolveBase at resolved
      split at resolved
      next => cases resolved
      next => cases map_simple_eq_ok_iff.1 resolved |>.choose_spec.2
      next undeclared =>
        split_ifs at resolved with isAny
        · refine ⟨.object, ?_⟩
          rw [Globals.resolveType, resolveUse_of_undeclared undeclared, isAny, isObject,
            Option.elim_some]
        · cases map_simple_eq_ok_iff.1 resolved |>.choose_spec.2

theorem Registered.lookup_element
    (registered : Registered options document)
    {index : Nat}
    {spot : Spot}
    (declares : DeclaresName document "element" name index spot) :
    (environmentOf options document).globals.elements.lookup name =
      some (elementAt spot ((settingOf options document).classType spot)) := by
  have isChild := Spot.mem_children.2 declares.isChild
  have isName : (settingOf options document).nameAt spot = name := nameAt_of_declaresName declares
  exact lookup_of_mem registered.proper.elements
    (mem_elements_iff.2 ⟨_, isChild, declares.construct, isName, rfl⟩)

theorem Describes.exists_particleField
    (describes : Describes options document portraits)
    (binds : Binds document type)
    (mapped : Mapped type.spot item)
    (isParticle : item.role = .particle) :
    ∃ field, particleField (environmentOf options document)
      (settingOf options document).packageName type.path item = .ok field := by
  obtain ⟨_, made⟩ := describes.exists_contribution binds (lists_of_mapped mapped).1
  unfold contributionIn Item.contribution at made
  rw [isParticle] at made
  obtain ⟨field, isField, _⟩ := bind_eq_ok_iff.1 made
  exact ⟨field, isField⟩

theorem Describes.exists_attributeField
    (describes : Describes options document portraits)
    (binds : Binds document type)
    (mapped : Mapped type.spot item)
    (isAttribute : item.role = .attributeUse)
    (allowed : ¬IsProhibited item.spot) :
    ∃ field, attributeField (environmentOf options document) item.spot = .ok field := by
  obtain ⟨_, made⟩ := describes.exists_contribution binds (lists_of_mapped mapped).1
  unfold contributionIn Item.contribution at made
  rw [isAttribute] at made
  dsimp only at made
  rw [if_neg allowed] at made
  obtain ⟨field, isField, _⟩ := bind_eq_ok_iff.1 made
  exact ⟨field, isField⟩

theorem Describes.exists_base
    (describes : Describes options document portraits)
    (binds : Binds document type)
    (mapped : Mapped type.spot item)
    (isBase : item.role = .complexBase ∨ item.role = .simpleBase) :
    ∃ base kind, baseAt item.spot = .ok base ∧
      (environmentOf options document).globals.resolveBase base = .ok kind := by
  obtain ⟨_, made⟩ := describes.exists_contribution binds (lists_of_mapped mapped).1
  unfold contributionIn Item.contribution at made
  rcases isBase with role | role
  · rw [role] at made
    obtain ⟨base, isName, made⟩ := bind_eq_ok_iff.1 made
    obtain ⟨kind, isKind, _⟩ := bind_eq_ok_iff.1 made
    exact ⟨base, kind, isName, isKind⟩
  · rw [role] at made
    obtain ⟨base, isName, made⟩ := bind_eq_ok_iff.1 made
    obtain ⟨kind, isKind, _⟩ := bind_eq_ok_iff.1 made
    exact ⟨base, kind, isName, isKind⟩

/-- The declaration of an element at the top that is referred to has a type. -/
theorem Describes.exists_elementType
    (describes : Describes options document portraits)
    (refers : RefersTo document .particle name)
    {element : ElementDefinition}
    (declared : (environmentOf options document).globals.elements.lookup name = some element) :
    ∃ type, (environmentOf options document).globals.elementType element = .ok type := by
  cases refers with
  | part binds mapped isParticle _ isReference resolved =>
      obtain ⟨field, made⟩ := describes.exists_particleField binds mapped isParticle
      unfold particleField at made
      obtain ⟨_, _, made⟩ := bind_eq_ok_iff.1 made
      rw [reference?, isReference, Option.map_some, resolved] at made
      obtain ⟨_, same, made⟩ := bind_eq_ok_iff.1 made
      obtain rfl := Except.ok.inj same
      rw [declared] at made
      obtain ⟨type, isType, _⟩ := bind_eq_ok_iff.1 made
      exact ⟨type, isType⟩

/-- The declaration of an attribute at the top that is referred to has a type. -/
theorem Describes.exists_attributeType
    (describes : Describes options document portraits)
    (refers : RefersTo document .attributeUse name)
    {use : TypeUse}
    (declared : (environmentOf options document).globals.attributes.lookup name = some use) :
    ∃ type, (environmentOf options document).globals.resolveUse [] use = .ok type := by
  cases refers with
  | part binds mapped isAttribute allowed isReference resolved =>
      obtain ⟨field, made⟩ :=
        describes.exists_attributeField binds mapped isAttribute (allowed rfl)
      unfold attributeField at made
      rw [reference?, isReference, Option.map_some, resolved] at made
      obtain ⟨_, same, made⟩ := bind_eq_ok_iff.1 made
      obtain rfl := Except.ok.inj same
      obtain ⟨type, isType, _⟩ := bind_eq_ok_iff.1 made
      rw [Globals.attributeType, declared] at isType
      exact ⟨type, isType⟩

/-- Every use of a type that the content of complex types leads to stands for a type. -/
theorem Reached.exists_type
    {use : TypeUse}
    (reached : Reached document use)
    (describes : Describes options document portraits)
    (depicts : Depicts options document outline portraits) :
    ∃ type, UseType document outline (complexTypes document) use type := by
  induction reached with
  | element binds mapped isParticle noReference givesType =>
      obtain ⟨field, made⟩ := describes.exists_particleField binds mapped isParticle
      unfold particleField at made
      obtain ⟨_, _, made⟩ := bind_eq_ok_iff.1 made
      rw [reference?, noReference, Option.map_none] at made
      obtain ⟨_, _, made⟩ := bind_eq_ok_iff.1 made
      obtain ⟨elementType, isType, _⟩ := bind_eq_ok_iff.1 made
      obtain ⟨type, resolved⟩ :=
        exists_resolveUse_of_elementType isType (usesType_elementAt_iff.2 givesType)
      exact ⟨type, useType_of_resolveUse describes depicts resolved⟩
  | elementReference refers declares givesType =>
      obtain ⟨elementType, isType⟩ :=
        describes.exists_elementType refers (describes.registered.lookup_element declares)
      obtain ⟨type, resolved⟩ :=
        exists_resolveUse_of_elementType isType (usesType_elementAt_iff.2 givesType)
      exact ⟨type, useType_of_resolveUse describes depicts resolved⟩
  | attributeUse binds mapped isAttribute allowed noReference =>
      obtain ⟨field, made⟩ := describes.exists_attributeField binds mapped isAttribute allowed
      unfold attributeField at made
      rw [reference?, noReference, Option.map_none] at made
      obtain ⟨_, _, made⟩ := bind_eq_ok_iff.1 made
      obtain ⟨type, resolved, _⟩ := bind_eq_ok_iff.1 made
      exact ⟨type, useType_of_resolveUse describes depicts resolved⟩
  | attributeReference refers declares =>
      obtain ⟨type, resolved⟩ :=
        describes.exists_attributeType refers (describes.registered.lookup_attribute declares)
      exact ⟨type, useType_of_resolveUse describes depicts resolved⟩
  | base binds mapped isBase given =>
      obtain ⟨base, kind, isName, isKind⟩ := describes.exists_base binds mapped isBase
      obtain ⟨type, resolved⟩ := exists_resolveType_of_resolveBase isKind
      obtain ⟨text, isText, sameName⟩ := bind_eq_ok_iff.1 isName
      obtain rfl := Option.some.inj (given.symm.trans (attribute?_of_required isText))
      rw [sameName]
      exact ⟨type, useType_of_resolveUse describes depicts resolved⟩
  | definition reached declares inductionHypothesis =>
      obtain ⟨type, useType⟩ := inductionHypothesis
      cases useType with
      | complexType declaresToo =>
          exact absurd declares (describes.registered.not_declares_both declaresToo)
      | simpleType declaresToo defined =>
          obtain ⟨rfl, rfl⟩ :=
            Prod.mk.inj (describes.registered.eq_of_declares (by decide) declares declaresToo)
          exact ⟨type, defined⟩
      | builtin undeclared => exact absurd declares (undeclared _ (by decide) _ _)
  | restriction reached inductionHypothesis =>
      obtain ⟨type, useType⟩ := inductionHypothesis
      cases useType with
      | restriction isBase => exact ⟨type, isBase⟩
  | list reached inductionHypothesis =>
      obtain ⟨type, useType⟩ := inductionHypothesis
      cases useType with
      | list isItem => exact ⟨_, isItem⟩

theorem UseType.isType
    {type : TypeRef}
    {types : List ComplexType}
    {reference : Deferred ExpandedName}
    (useType : UseType document outline types (.named reference) type) :
    ∃ name, reference = .ok name ∧ IsType document name := by
  cases useType with
  | complexType declares => exact ⟨_, rfl, .inl fun noType => noType _ (by decide) _ _ declares⟩
  | simpleType declares => exact ⟨_, rfl, .inl fun noType => noType _ (by decide) _ _ declares⟩
  | builtin undeclared isBuiltin =>
      refine ⟨_, rfl, .inr ?_⟩
      rw [Schema.isBuiltin, isBuiltin]
      rfl

/-- From a use of a type that stands for a type, no chain of simple types goes on without end. -/
theorem UseType.acc
    (describes : Describes options document portraits)
    {types : List ComplexType}
    {use : TypeUse}
    {type : TypeRef}
    (useType : UseType document outline types use type)
    (mentions : Mentions use name) :
    Acc (fun base derived => SimplyDerived document derived base) name := by
  -- The type was resolved through the definitions that a chain goes through, so that chains end
  -- where the resolution did.
  induction useType generalizing name with
  | absent | union | undefined => cases mentions
  | restriction isBase inductionHypothesis =>
      cases mentions with
      | restriction mentions => exact inductionHypothesis mentions
  | list isItem inductionHypothesis =>
      cases mentions with
      | list mentions => exact inductionHypothesis mentions
  | complexType declares =>
      cases mentions
      constructor
      rintro base ⟨index, spot, declaresToo, _⟩
      exact absurd declaresToo (describes.registered.not_declares_both declares)
  | simpleType declares defined inductionHypothesis =>
      cases mentions
      constructor
      rintro base ⟨index, spot, declaresToo, mentioned⟩
      obtain ⟨rfl, rfl⟩ :=
        Prod.mk.inj (describes.registered.eq_of_declares (by decide) declaresToo declares)
      exact inductionHypothesis mentioned
  | builtin undeclared =>
      cases mentions
      constructor
      rintro base ⟨index, spot, declares, _⟩
      exact absurd declares (undeclared _ (by decide) _ _)

/-- What cannot be left for ever does not lead back to itself. -/
theorem not_transGen_self_of_acc
    {Item : Type}
    {leads : Item → Item → Prop}
    {item : Item}
    (acc : Acc (fun next item => leads item next) item) :
    ¬TransGen leads item item := by
  induction acc with
  | intro item _ inductionHypothesis =>
      intro cycle
      obtain ⟨next, first, rest⟩ := TransGen.head'_iff.1 cycle
      exact inductionHypothesis next first (.tail' rest first)

end References

end Schema
end SchemaBinding
