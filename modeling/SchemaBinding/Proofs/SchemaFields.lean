import SchemaBinding.Proofs.DeclaredTypes

/-!
# Fields of schemas

The fields of the classes of a schema and the parts of the content that they are made for.
-/

namespace SchemaBinding
namespace Schema

open Xml (Spot)

/-! ## Rules -/

/-- Whether an element may occur more than once: its bound is `unbounded` or a number above one. -/
def IsMany (tag : Xml.Tag) : Prop :=
  ∃ bound, tag.attribute? "maxOccurs" = some bound ∧
    (Text.trim bound = "unbounded" ∨
      ∃ number, natural? (Text.trim bound).toList = some number ∧ 1 < number)

/-- Whether a part of the content, or a group around it within the complex type, may occur more than
once. -/
def Item.IsMany (item : Item) : Prop :=
  ∃ tag ∈ item.spot.tag :: item.around, Schema.IsMany tag

/-- Whether a name is that of a type without elements. -/
def IsSimple (document : Xml.Document) (name : ExpandedName) : Prop :=
  (∃ index spot, DeclaresName document "simpleType" name index spot) ∨
    NoType document name ∧ isBuiltin name ∧ name ≠ anyType

/-- Whether a field is made for a part of the content: for elements, for attributes that are not
prohibited, and for derivations by simple content from a type without elements. -/
def MakesField (document : Xml.Document) (item : Item) : Prop :=
  item.role = .particle ∨ item.role = .attributeUse ∧ ¬IsProhibited item.spot ∨
    item.role = .simpleBase ∧ ∃ text name, item.spot.tag.attribute? "base" = some text ∧
      resolveName item.spot.scope text = .ok name ∧ IsSimple document name

/-- What the field for a part of the content of a complex type is. -/
inductive FieldOf (document : Xml.Document) (outline : Outline) (types : List ComplexType)
    (around : ComplexType) (item : Item) : String × TypeRef → Prop
  /-- An element has the type that it declares, or a list of it. -/
  | element {name : String} {many : Bool} {type : TypeRef} (isElement : item.role = .particle)
      (noReference : item.spot.tag.attribute? "ref" = none)
      (isName : item.spot.tag.attribute? "name" = some name) (many_iff : many ↔ item.IsMany)
      (elementType : ElementType document outline types item.spot
        (fun index inner =>
          .nested around item.spot.tag (around.place ++ item.place ++ [index]) inner) type) :
      FieldOf document outline types around item (fieldName name, particleType many type)
  /-- An element that refers to one at the top has the type of that one, or a list of it. -/
  | elementReference {text : String} {name : ExpandedName} {position : Nat} {spot : Spot}
      {many : Bool} {type : TypeRef} (isElement : item.role = .particle)
      (isReference : item.spot.tag.attribute? "ref" = some text)
      (resolved : resolveName item.spot.scope text = .ok name)
      (declares : DeclaresName document "element" name position spot) (many_iff : many ↔ item.IsMany)
      (elementType : ElementType document outline types spot
        (fun index inner => .top spot.tag [position, index] inner) type) :
      FieldOf document outline types around item (fieldName name.localName, particleType many type)
  /-- An attribute has the type that it declares. -/
  | attributeUse {name : String} {type : TypeRef} (isAttribute : item.role = .attributeUse)
      (noReference : item.spot.tag.attribute? "ref" = none)
      (isName : item.spot.tag.attribute? "name" = some name)
      (useType : UseType document outline types
        (typeUse item.spot.scope item.spot.tag item.spot.content) type) :
      FieldOf document outline types around item (fieldName name, type)
  /-- An attribute that refers to one at the top has the type of that one. -/
  | attributeReference {text : String} {name : ExpandedName} {position : Nat} {spot : Spot}
      {type : TypeRef} (isAttribute : item.role = .attributeUse)
      (isReference : item.spot.tag.attribute? "ref" = some text)
      (resolved : resolveName item.spot.scope text = .ok name)
      (declares : DeclaresName document "attribute" name position spot)
      (useType : UseType document outline types (typeUse spot.scope spot.tag spot.content) type) :
      FieldOf document outline types around item (fieldName name.localName, type)
  /-- An attribute of another namespace is text. -/
  | foreignAttribute {text : String} {name : ExpandedName} (isAttribute : item.role = .attributeUse)
      (isReference : item.spot.tag.attribute? "ref" = some text)
      (resolved : resolveName item.spot.scope text = .ok name)
      (undeclared : ∀ position spot, ¬DeclaresName document "attribute" name position spot)
      (foreign : name.namespaceName ≠ document.root.attribute? "targetNamespace") :
      FieldOf document outline types around item (fieldName name.localName, .string)
  /-- A derivation by simple content has the value that its base stands for. -/
  | value {text : String} {name : ExpandedName} {type : TypeRef} (isBase : item.role = .simpleBase)
      (given : item.spot.tag.attribute? "base" = some text)
      (resolved : resolveName item.spot.scope text = .ok name)
      (useType : UseType document outline types (.named (.ok name)) type) :
      FieldOf document outline types around item ("value", type)

/-! ## Repetition -/

/-- The groups around a part of the content are themselves parts of it. -/
theorem Mapped.exists_group
    {type : Spot}
    {item : Item}
    (mapped : Mapped type item)
    {before after : List Xml.Tag}
    {tag : Xml.Tag}
    (split : item.around = before ++ tag :: after) :
    ∃ group, Mapped type group ∧ group.role = .group ∧ group.around = before ∧
      group.spot.tag = tag := by
  induction mapped generalizing before after tag with
  | group | attributeUse | complexBase | simpleBase | addedAttribute => simp at split
  | @innerGroup place around group child index mapped isChild isGroup inductionHypothesis
  | @particle place around group child index mapped isChild isElement inductionHypothesis =>
      rcases List.eq_nil_or_concat after with rfl | ⟨init, last, rfl⟩
      · obtain ⟨rfl, same⟩ := List.append_inj' split rfl
        exact ⟨_, mapped, rfl, rfl, (List.cons.inj same).1⟩
      · rw [List.concat_eq_append, ← List.cons_append, ← List.append_assoc] at split
        exact inductionHypothesis (List.append_inj' split rfl).1

theorem allowsMany_eq_ok
    {bound : String}
    {many : Bool}
    (allowed : allowsMany bound = .ok many) :
    many ↔ Text.trim bound = "unbounded" ∨
      ∃ number, natural? (Text.trim bound).toList = some number ∧ 1 < number := by
  unfold allowsMany at allowed
  dsimp only at allowed
  split_ifs at allowed with unbounded
  · obtain rfl := Except.ok.inj allowed
    simp [unbounded]
  · split at allowed
    next number isNumber =>
      split_ifs at allowed
      obtain rfl := Except.ok.inj allowed
      simp [unbounded, isNumber]
    next => cases allowed

theorem repeated_eq_ok
    {tag : Xml.Tag}
    {many : Bool}
    (isRepeated : repeated tag = .ok many) :
    many ↔ IsMany tag := by
  unfold repeated at isRepeated
  unfold IsMany
  cases given : tag.attribute? "maxOccurs" with
  | none =>
      rw [given] at isRepeated
      obtain rfl := Except.ok.inj isRepeated
      simp
  | some bound =>
      rw [given] at isRepeated
      rw [allowsMany_eq_ok isRepeated]
      simp

/-- If no group is at fault, the groups around a part tell whether one of them may occur more than
once, although the bounds inside such a group are not looked at. -/
theorem anyRepeated_iff
    {type : Spot}
    (groups : ∀ {group}, Mapped type group → group.role = .group → ∃ many, group.repeats = .ok many)
    {item : Item}
    (mapped : Mapped type item) :
    anyRepeated item.around ↔ ∃ tag ∈ item.around, IsMany tag := by
  have repeats_iff : ∀ {tag}, (repeated tag).toOption = some true ↔ repeated tag = .ok true := by
    intro tag
    cases repeated tag <;> simp [Except.toOption]
  simp only [anyRepeated, List.any_eq_true, decide_eq_true_eq, repeats_iff]
  constructor
  · rintro ⟨tag, member, isRepeated⟩
    exact ⟨tag, member, (repeated_eq_ok isRepeated).1 rfl⟩
  · rintro ⟨tag, member, isMany⟩
    -- The bound of this group is either read without fault or not looked at, and then a group further
    -- out is repeated.
    obtain ⟨before, after, split⟩ := List.append_of_mem member
    obtain ⟨group, isMapped, isGroup, rfl, rfl⟩ := mapped.exists_group split
    obtain ⟨many, isRepeated⟩ := groups isMapped isGroup
    unfold Item.repeats at isRepeated
    split_ifs at isRepeated with outer
    · simp only [anyRepeated, List.any_eq_true, decide_eq_true_eq, repeats_iff] at outer
      obtain ⟨tag, isOuter, isRepeated⟩ := outer
      rw [split]
      exact ⟨tag, List.mem_append_left _ isOuter, isRepeated⟩
    · obtain rfl := (repeated_eq_ok isRepeated).2 isMany
      exact ⟨_, member, isRepeated⟩

theorem repeats_eq_ok
    {type : Spot}
    (groups : ∀ {group}, Mapped type group → group.role = .group → ∃ many, group.repeats = .ok many)
    {item : Item}
    (mapped : Mapped type item)
    {many : Bool}
    (repeats : item.repeats = .ok many) :
    many ↔ item.IsMany := by
  have outer_iff := anyRepeated_iff groups mapped
  unfold Item.IsMany
  rw [List.exists_mem_cons_iff, ← outer_iff]
  unfold Item.repeats at repeats
  split_ifs at repeats with outer
  · obtain rfl := Except.ok.inj repeats
    simp [outer]
  · rw [repeated_eq_ok repeats]
    simp [outer]

/-! ## Contributions -/

section Fields

variable {options : BindingOptions} {document : Xml.Document} {portraits : List Portrait}
  {outline : Outline} {around : ComplexType} {item : Item} {field : String × TypeRef}

/-- Groups in complex types that classes are made for have bounds that are not at fault, unless the
bounds are not looked at. -/
theorem Describes.group_repeats
    (describes : Describes options document portraits)
    (binds : Binds document around)
    (mapped : Mapped around.spot item)
    (isGroup : item.role = .group) :
    ∃ many, item.repeats = .ok many := by
  obtain ⟨contribution, isContribution⟩ :=
    describes.exists_contribution binds (lists_of_mapped mapped).1
  unfold contributionIn Item.contribution at isContribution
  rw [isGroup] at isContribution
  obtain ⟨many, isMany, _⟩ := bind_eq_ok_iff.1 isContribution
  exact ⟨many, isMany⟩

/-- The field for an element is what the element says, or the one that it refers to. -/
theorem fieldOf_of_particleField
    (describes : Describes options document portraits)
    (depicts : Depicts options document outline portraits)
    (binds : Binds document around)
    (mapped : Mapped around.spot item)
    (isElement : item.role = .particle)
    (made : particleField (environmentOf options document) (settingOf options document).packageName
      around.path item = .ok field) :
    FieldOf document outline (complexTypes document) around item field := by
  unfold particleField at made
  obtain ⟨many, isMany, made⟩ := bind_eq_ok_iff.1 made
  have many_iff := repeats_eq_ok (describes.group_repeats binds) mapped isMany
  cases isReference : item.spot.tag.attribute? "ref" with
  | some text =>
      rw [reference?, isReference, Option.map_some] at made
      obtain ⟨name, resolved, made⟩ := bind_eq_ok_iff.1 made
      cases declared : (environmentOf options document).globals.elements.lookup name with
      | none =>
          rw [declared] at made
          cases made
      | some element =>
          rw [declared] at made
          obtain ⟨type, isType, made⟩ := bind_eq_ok_iff.1 made
          obtain rfl := Except.ok.inj made
          obtain ⟨index, spot, declares, elementType⟩ :=
            elementType_of_lookup describes depicts declared isType
          exact .elementReference isElement isReference resolved declares many_iff elementType
  | none =>
      rw [reference?, isReference, Option.map_none] at made
      obtain ⟨name, isName, made⟩ := bind_eq_ok_iff.1 made
      obtain ⟨type, isType, made⟩ := bind_eq_ok_iff.1 made
      obtain rfl := Except.ok.inj made
      have hasClass : ∀ {index inner}, item.spot.tag.attribute? "type" = none →
          firstComplexType? item.spot = some (index, inner) →
            HasClass outline (complexTypes document)
              (.nested around item.spot.tag (around.place ++ item.place ++ [index]) inner)
              (.reference (settingOf options document).packageName
                (around.path ++ "." ++ className name)) := by
        intro index inner noType first
        rw [← nameOf_of_required isName]
        exact hasClass_of_binds describes depicts
          (.nested binds mapped isElement isReference noType first)
      exact .element isElement isReference (attribute?_of_required isName) many_iff
        (elementType_of_resolved describes depicts hasClass isType)

/-- The field for an attribute is what the attribute says, or the one that it refers to. -/
theorem fieldOf_of_attributeField
    (describes : Describes options document portraits)
    (depicts : Depicts options document outline portraits)
    (isAttribute : item.role = .attributeUse)
    (made : attributeField (environmentOf options document) item.spot = .ok field) :
    FieldOf document outline (complexTypes document) around item field := by
  unfold attributeField at made
  cases isReference : item.spot.tag.attribute? "ref" with
  | none =>
      rw [reference?, isReference, Option.map_none] at made
      obtain ⟨name, isName, made⟩ := bind_eq_ok_iff.1 made
      obtain ⟨type, isType, made⟩ := bind_eq_ok_iff.1 made
      obtain rfl := Except.ok.inj made
      exact .attributeUse isAttribute isReference (attribute?_of_required isName)
        (useType_of_resolveUse describes depicts isType)
  | some text =>
      rw [reference?, isReference, Option.map_some] at made
      obtain ⟨name, resolved, made⟩ := bind_eq_ok_iff.1 made
      obtain ⟨type, isType, made⟩ := bind_eq_ok_iff.1 made
      obtain rfl := Except.ok.inj made
      unfold Globals.attributeType at isType
      split at isType
      next use declared =>
        obtain ⟨child, isChild, isTop, rfl, rfl⟩ := mem_attributes_iff.1 (mem_of_lookup declared)
        exact .attributeReference isAttribute isReference resolved
          (describes.registered.declaresName isChild isTop (by decide))
          (useType_of_resolveUse describes depicts isType)
      next undeclared =>
        split_ifs at isType with isOwn
        obtain rfl := Except.ok.inj isType
        refine .foreignAttribute isAttribute isReference resolved ?_ ?_
        · intro position spot declares
          rw [describes.registered.lookup_attribute declares] at undeclared
          cases undeclared
        · exact fun same => isOwn (beq_iff_eq.2 same)

theorem map_simple_eq_ok_iff
    {result : Except SchemaError TypeRef}
    {kind : Base} :
    Base.simple <$> result = .ok kind ↔ ∃ type, result = .ok type ∧ .simple type = kind := by
  cases result <;> simp [Functor.map, Except.map]

theorem resolveType_of_resolveBase
    {globals : Globals}
    {name : ExpandedName}
    {type : TypeRef}
    (resolved : globals.resolveBase name = .ok (.simple type)) :
    globals.resolveType name = .ok type := by
  have resolvedType : ∀ {result : Except SchemaError TypeRef},
      Base.simple <$> result = .ok (.simple type) → result = .ok type := by
    intro result mapped
    obtain ⟨_, isType, same⟩ := map_simple_eq_ok_iff.1 mapped
    exact Base.simple.inj same ▸ isType
  unfold Globals.resolveBase at resolved
  split at resolved
  next => cases resolved
  next => exact resolvedType resolved
  next =>
    split_ifs at resolved
    · cases resolved
    · exact resolvedType resolved

theorem isBuiltin_of_resolveType
    {globals : Globals}
    {name : ExpandedName}
    {type : TypeRef}
    (missing : globals.types.lookup name = none)
    (resolved : globals.resolveType name = .ok type) :
    isBuiltin name := by
  unfold Globals.resolveType at resolved
  rw [Globals.resolveUse] at resolved
  split at resolved
  next declared => simp [missing] at declared
  next declared => simp [missing] at declared
  next =>
    split at resolved
    next isBuiltin =>
      rw [Schema.isBuiltin, isBuiltin]
      rfl
    next => cases resolved

/-- A base is one without elements if its name is that of a type without elements. -/
theorem Describes.isSimple_iff
    (describes : Describes options document portraits)
    {name : ExpandedName}
    {kind : Base}
    (resolved : (environmentOf options document).globals.resolveBase name = .ok kind) :
    IsSimple document name ↔ ∃ type, kind = .simple type := by
  have whole := resolved
  unfold Globals.resolveBase at resolved
  split at resolved
  next id type declared =>
    obtain rfl := Except.ok.inj resolved
    refine iff_of_false ?_ nofun
    rintro (⟨_, _, declares⟩ | ⟨noType, _⟩)
    · rw [describes.registered.lookup_simpleType declares] at declared
      cases declared
    · obtain ⟨child, isChild, isComplex, rfl, _⟩ := complex_of_mem_types (mem_of_lookup declared)
      exact noType _ List.mem_cons_self _ _
        (describes.registered.declaresName isChild isComplex (by decide))
  next definition declared =>
    obtain ⟨type, _, rfl⟩ := map_simple_eq_ok_iff.1 resolved
    refine iff_of_true (.inl ?_) ⟨type, rfl⟩
    obtain ⟨child, isChild, isSimple, rfl, _⟩ := simple_mem_types_iff.1 (mem_of_lookup declared)
    exact ⟨_, _, describes.registered.declaresName isChild isSimple (by decide)⟩
  next undeclared =>
    split_ifs at resolved with isAny
    · obtain rfl := Except.ok.inj resolved
      refine iff_of_false ?_ nofun
      rintro (⟨_, _, declares⟩ | ⟨_, _, notAny⟩)
      · rw [describes.registered.lookup_simpleType declares] at undeclared
        cases undeclared
      · exact notAny isAny
    · obtain ⟨type, isType, rfl⟩ := map_simple_eq_ok_iff.1 resolved
      exact iff_of_true (.inr ⟨describes.registered.noType_of_lookup undeclared,
        isBuiltin_of_resolveType undeclared isType, isAny⟩) ⟨type, rfl⟩

/-- The field for a derivation by simple content has the type that the base stands for. -/
theorem fieldOf_of_baseContribution
    (describes : Describes options document portraits)
    (depicts : Depicts options document outline portraits)
    (isBase : item.role = .simpleBase)
    (made : baseContribution (environmentOf options document) (fun type => .field ("value", type))
      item.spot = .ok (.field field)) :
    FieldOf document outline (complexTypes document) around item field := by
  obtain ⟨name, isName, made⟩ := bind_eq_ok_iff.1 made
  obtain ⟨text, isText, resolvedName⟩ := bind_eq_ok_iff.1 isName
  obtain ⟨kind, resolved, made⟩ := bind_eq_ok_iff.1 made
  have isField := Except.ok.inj made
  cases kind with
  | any | complex => cases isField
  | simple type =>
      obtain rfl := Contribution.field.inj isField
      exact .value isBase (attribute?_of_required isText) resolvedName
        (useType_of_resolveUse describes depicts (resolveType_of_resolveBase resolved))

/-- The field that a part of the content contributes is the one that is made for it. -/
theorem fieldOf_of_contribution
    (describes : Describes options document portraits)
    (depicts : Depicts options document outline portraits)
    (binds : Binds document around)
    (member : item ∈ contentItems around.spot)
    (given : contributionIn options document around item = .ok (.field field)) :
    FieldOf document outline (complexTypes document) around item field := by
  unfold contributionIn Item.contribution at given
  cases role : item.role with
  | group =>
      rw [role] at given
      obtain ⟨_, _, given⟩ := bind_eq_ok_iff.1 given
      cases given
  | particle =>
      have mapped := (mem_contentItems_iff (by rw [role]; decide)).1 member
      rw [role] at given
      obtain ⟨made, isMade, given⟩ := bind_eq_ok_iff.1 given
      obtain rfl := Contribution.field.inj (Except.ok.inj given)
      exact fieldOf_of_particleField describes depicts binds mapped role isMade
  | attributeUse =>
      rw [role] at given
      dsimp only at given
      split_ifs at given
      · cases given
      · obtain ⟨made, isMade, given⟩ := bind_eq_ok_iff.1 given
        obtain rfl := Contribution.field.inj (Except.ok.inj given)
        exact fieldOf_of_attributeField describes depicts role isMade
  | complexBase =>
      rw [role] at given
      obtain ⟨_, _, given⟩ := bind_eq_ok_iff.1 given
      obtain ⟨kind, _, given⟩ := bind_eq_ok_iff.1 given
      cases kind <;> cases given
  | simpleBase =>
      rw [role] at given
      exact fieldOf_of_baseContribution describes depicts role given
  | unsupported =>
      rw [role] at given
      cases given

/-- What an attribute of an element refers to follows from the element. -/
theorem eq_of_resolveName
    {scope : Xml.Scope}
    {tag : Xml.Tag}
    {label text otherText : String}
    {name other : ExpandedName}
    (given : tag.attribute? label = some text)
    (resolved : resolveName scope text = .ok name)
    (givenToo : tag.attribute? label = some otherText)
    (resolvedToo : resolveName scope otherText = .ok other) :
    name = other := by
  obtain rfl := Option.some.inj (given.symm.trans givenToo)
  exact Except.ok.inj (resolved.symm.trans resolvedToo)

/-- What the field for a part of the content is follows from the part. -/
theorem Describes.fieldOf_unique
    (describes : Describes options document portraits)
    {other : String × TypeRef}
    (isField : FieldOf document outline (complexTypes document) around item field)
    (isOther : FieldOf document outline (complexTypes document) around item other) :
    field = other := by
  -- Fields of different kinds are for parts of different roles, except that an element or an attribute
  -- may refer to another one instead of declaring itself.
  cases isField with
  | element isElement noReference isName many_iff elementType =>
      cases isOther with
      | element _ _ isNameToo many_iff_too elementTypeToo =>
          obtain rfl := Option.some.inj (isName.symm.trans isNameToo)
          obtain rfl := describes.elementType_unique elementType elementTypeToo
          rw [Bool.eq_iff_iff.2 (many_iff.trans many_iff_too.symm)]
      | elementReference _ isReference => cases noReference.symm.trans isReference
      | attributeUse role | attributeReference role | foreignAttribute role | value role =>
          cases isElement.symm.trans role
  | elementReference isElement isReference resolved declares many_iff elementType =>
      cases isOther with
      | element _ noReference => cases noReference.symm.trans isReference
      | elementReference _ isReferenceToo resolvedToo declaresToo many_iff_too elementTypeToo =>
          obtain rfl := eq_of_resolveName isReference resolved isReferenceToo resolvedToo
          obtain ⟨rfl, rfl⟩ :=
            Prod.mk.inj (describes.registered.eq_of_declares (by decide) declares declaresToo)
          obtain rfl := describes.elementType_unique elementType elementTypeToo
          rw [Bool.eq_iff_iff.2 (many_iff.trans many_iff_too.symm)]
      | attributeUse role | attributeReference role | foreignAttribute role | value role =>
          cases isElement.symm.trans role
  | attributeUse isAttribute noReference isName useType =>
      cases isOther with
      | attributeUse _ _ isNameToo useTypeToo =>
          obtain rfl := Option.some.inj (isName.symm.trans isNameToo)
          rw [describes.useType_unique useType useTypeToo]
      | attributeReference _ isReference | foreignAttribute _ isReference =>
          cases noReference.symm.trans isReference
      | element role | elementReference role | value role => cases isAttribute.symm.trans role
  | attributeReference isAttribute isReference resolved declares useType =>
      cases isOther with
      | attributeUse _ noReference => cases noReference.symm.trans isReference
      | attributeReference _ isReferenceToo resolvedToo declaresToo useTypeToo =>
          obtain rfl := eq_of_resolveName isReference resolved isReferenceToo resolvedToo
          obtain ⟨rfl, rfl⟩ :=
            Prod.mk.inj (describes.registered.eq_of_declares (by decide) declares declaresToo)
          rw [describes.useType_unique useType useTypeToo]
      | foreignAttribute _ isReferenceToo resolvedToo undeclared =>
          obtain rfl := eq_of_resolveName isReference resolved isReferenceToo resolvedToo
          exact absurd declares (undeclared _ _)
      | element role | elementReference role | value role => cases isAttribute.symm.trans role
  | foreignAttribute isAttribute isReference resolved undeclared foreign =>
      cases isOther with
      | attributeUse _ noReference => cases noReference.symm.trans isReference
      | attributeReference _ isReferenceToo resolvedToo declares =>
          obtain rfl := eq_of_resolveName isReference resolved isReferenceToo resolvedToo
          exact absurd declares (undeclared _ _)
      | foreignAttribute _ isReferenceToo resolvedToo =>
          obtain rfl := eq_of_resolveName isReference resolved isReferenceToo resolvedToo
          rfl
      | element role | elementReference role | value role => cases isAttribute.symm.trans role
  | value isBase given resolved useType =>
      cases isOther with
      | value _ givenToo resolvedToo useTypeToo =>
          obtain rfl := eq_of_resolveName given resolved givenToo resolvedToo
          rw [describes.useType_unique useType useTypeToo]
      | element role | elementReference role | attributeUse role | attributeReference role
      | foreignAttribute role => cases isBase.symm.trans role

/-- A part of the content contributes a field if one is made for it. -/
theorem Describes.makesField_iff
    (describes : Describes options document portraits)
    {contribution : Contribution}
    (given : contributionIn options document around item = .ok contribution) :
    MakesField document item ↔ contribution.field?.isSome := by
  unfold contributionIn Item.contribution at given
  unfold MakesField
  cases role : item.role with
  | group =>
      rw [role] at given
      obtain ⟨_, _, given⟩ := bind_eq_ok_iff.1 given
      obtain rfl := Except.ok.inj given
      simp [Contribution.field?]
  | particle =>
      rw [role] at given
      obtain ⟨made, _, given⟩ := bind_eq_ok_iff.1 given
      obtain rfl := Except.ok.inj given
      simp [Contribution.field?]
  | attributeUse =>
      rw [role] at given
      dsimp only at given
      split_ifs at given with prohibited
      · obtain rfl := Except.ok.inj given
        simp [Contribution.field?, prohibited]
      · obtain ⟨made, _, given⟩ := bind_eq_ok_iff.1 given
        obtain rfl := Except.ok.inj given
        simp [Contribution.field?, prohibited]
  | complexBase =>
      rw [role] at given
      obtain ⟨_, _, given⟩ := bind_eq_ok_iff.1 given
      obtain ⟨kind, _, given⟩ := bind_eq_ok_iff.1 given
      obtain rfl := Except.ok.inj given
      cases kind <;> simp [Base.contribution, Contribution.field?]
  | simpleBase =>
      rw [role] at given
      obtain ⟨name, isName, given⟩ := bind_eq_ok_iff.1 given
      obtain ⟨text, isText, resolvedName⟩ := bind_eq_ok_iff.1 isName
      obtain ⟨kind, resolved, given⟩ := bind_eq_ok_iff.1 given
      obtain rfl := Except.ok.inj given
      have gives_iff : (kind.contribution (fun type => .field ("value", type)) name).field?.isSome ↔
          ∃ type, kind = .simple type := by
        cases kind <;> simp [Base.contribution, Contribution.field?]
      rw [gives_iff, ← describes.isSimple_iff resolved]
      simp [attribute?_of_required isText, resolvedName]
  | unsupported =>
      rw [role] at given
      obtain rfl := Except.ok.inj given
      simp [Contribution.field?]

/-! ## Fields of classes -/

/-- The field that a part of the content gives to the class of its complex type. -/
def fieldIn? (options : BindingOptions) (document : Xml.Document) (type : ComplexType)
    (item : Item) : Option (String × TypeRef) :=
  (contributionIn options document type item).toOption.bind Contribution.field?

/-- A class has the fields that the parts of the content give to it, in their order. -/
theorem Describes.fieldList_eq
    (describes : Describes options document portraits)
    (depicts : Depicts options document outline portraits)
    {id : ClassId}
    (isType : (complexTypes document)[id.index]? = some around) :
    outline.fieldList id =
      (contentItems around.spot).filterMap (fieldIn? options document around) := by
  obtain ⟨portrait, isPortrait, _, contributions, areContributions, fields⟩ :=
    describes.exists_contributions isType
  rw [depicts.fields isPortrait, fields]
  calc contributions.filterMap Contribution.field?
    _ = (contributions.map Except.ok).filterMap
          fun result : Deferred Contribution => result.toOption.bind Contribution.field? := by
        rw [List.filterMap_map]
        rfl
    _ = (contentItems around.spot).filterMap (fieldIn? options document around) := by
        rw [← areContributions, List.filterMap_map]
        rfl

theorem forall₂_filter_filterMap
    {Source Target : Type}
    {read : Source → Option Target}
    {related : Source → Target → Prop}
    {sources : List Source}
    (relates : ∀ source ∈ sources, ∀ target, read source = some target → related source target) :
    List.Forall₂ related (sources.filter fun source => (read source).isSome)
      (sources.filterMap read) := by
  induction sources with
  | nil => exact .nil
  | cons source rest inductionHypothesis =>
      obtain ⟨relatesFirst, relatesRest⟩ := List.forall_mem_cons.1 relates
      rw [List.filter_cons, List.filterMap_cons]
      cases isTarget : read source with
      | none => exact inductionHypothesis relatesRest
      | some target => exact .cons (relatesFirst target isTarget) (inductionHypothesis relatesRest)

theorem fieldIn?_eq_some_iff :
    fieldIn? options document around item = some field ↔
      contributionIn options document around item = .ok (.field field) := by
  unfold fieldIn?
  cases contributionIn options document around item with
  | error error => simp [Except.toOption]
  | ok contribution => cases contribution <;> simp [Except.toOption, Contribution.field?]

/-- The parts that give fields are those that fields are made for. -/
theorem Describes.isSome_fieldIn?_iff
    (describes : Describes options document portraits)
    (binds : Binds document around) :
    (item ∈ contentItems around.spot ∧ (fieldIn? options document around item).isSome) ↔
      Mapped around.spot item ∧ MakesField document item := by
  have makes_iff : item ∈ contentItems around.spot →
      ((fieldIn? options document around item).isSome ↔ MakesField document item) := by
    intro member
    obtain ⟨contribution, given⟩ := describes.exists_contribution binds member
    rw [describes.makesField_iff given, fieldIn?, given]
    rfl
  constructor
  · rintro ⟨member, gives⟩
    have makes := (makes_iff member).1 gives
    have supported : item.role ≠ .unsupported := by
      rcases makes with role | ⟨role, _⟩ | ⟨role, _⟩ <;> simp [role]
    exact ⟨(mem_contentItems_iff supported).1 member, makes⟩
  · rintro ⟨mapped, makes⟩
    have member := (lists_of_mapped mapped).1
    exact ⟨member, (makes_iff member).2 makes⟩

/-- A field of a class is what the field for a part of the content is. -/
theorem Describes.exists_fieldOf
    (describes : Describes options document portraits)
    (depicts : Depicts options document outline portraits)
    {id : ClassId}
    (isType : (complexTypes document)[id.index]? = some around)
    (isField : field ∈ outline.fieldList id) :
    ∃ item, Mapped around.spot item ∧
      FieldOf document outline (complexTypes document) around item field := by
  have binds := mem_complexTypes_iff.1 (List.mem_of_getElem? isType)
  rw [describes.fieldList_eq depicts isType] at isField
  obtain ⟨item, member, gives⟩ := List.mem_filterMap.1 isField
  have mapped := ((describes.isSome_fieldIn?_iff binds).1 ⟨member, by rw [gives]; rfl⟩).1
  exact ⟨item, mapped,
    fieldOf_of_contribution describes depicts binds member (fieldIn?_eq_some_iff.1 gives)⟩

/-- The classes of a schema have exactly the fields that the content of their complex types makes up,
in document order: one for each element in their groups, for each attribute that is not prohibited
and for each derivation by simple content from a type without elements, with what extensions add and
without what is inside restrictions or inside elements.  The rules for fields allow one field for each
of these parts, and this is the field that the class has. -/
theorem fields_of_content
    (accepted : (bindXml options document).1 = .ok outline) :
    ∃ types, Enumerates document types ∧ MadeFor outline types ∧
      ∀ {id type}, types[id.index]? = some type → ∃ items : List Item,
        (∀ item, item ∈ items ↔ Mapped type.spot item ∧ MakesField document item) ∧
        items.Pairwise (fun first second => first.place < second.place) ∧
        List.Forall₂ (fun item field => ∀ other, FieldOf document outline types type item other ↔
          other = field) items (outline.fieldList id) := by
  obtain ⟨portraits, describes, depicts⟩ := depicts_of_accepted accepted
  refine ⟨complexTypes document, enumerates_complexTypes document,
    madeFor_complexTypes describes depicts, ?_⟩
  intro id type isType
  have binds := mem_complexTypes_iff.1 (List.mem_of_getElem? isType)
  refine ⟨(contentItems type.spot).filter fun item => (fieldIn? options document type item).isSome,
    ?_, ?_, ?_⟩
  · intro item
    rw [List.mem_filter]
    exact describes.isSome_fieldIn?_iff binds
  · exact ((contentItems_sorted type.spot).imp fun before => before.1).filter _
  · rw [describes.fieldList_eq depicts isType]
    apply forall₂_filter_filterMap
    intro item member field isField other
    have fieldOf :=
      fieldOf_of_contribution describes depicts binds member (fieldIn?_eq_some_iff.1 isField)
    constructor
    · exact fun isOther => describes.fieldOf_unique isOther fieldOf
    · rintro rfl
      exact fieldOf

end Fields

theorem supply_fields :
    (bindXml {} supplySchema).1 = .ok supplyOutline ∧
      ∃ types type items, Enumerates supplySchema types ∧ types[0]? = some type ∧
        List.Forall₂ (fun item field => ∀ other,
          FieldOf supplySchema supplyOutline types type item other ↔ other = field) items
          [("stop", .listOf (.reference "supply" "Rush.Stop")),
            ("note", .listOf (.reference "supply" "Note"))] := by
  obtain ⟨types, enumerates, madeFor, fields⟩ := fields_of_content supply_accepted
  have isFirst : 0 < types.length := madeFor.length ▸ (by decide : 0 < supplyOutline.classes.length)
  have isType := List.getElem?_eq_getElem isFirst
  obtain ⟨items, _, _, made⟩ := fields (show types[(⟨0⟩ : ClassId).index]? = _ from isType)
  exact ⟨supply_accepted, types, _, items, enumerates, isType, made⟩

end Schema
end SchemaBinding
