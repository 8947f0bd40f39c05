import Mathlib.Data.List.Pairwise
import SchemaBinding.Proofs.SchemaClasses

/-!
# Types that a schema declares

Which type of the outline the declarations of a schema stand for, as rules over the document and the
finished outline: a complex type stands for the type that its class has in the end, wherever it is
referred to.  What the binding resolves in the middle of its work agrees with the rules.
-/

namespace SchemaBinding
namespace Schema

open Xml (Spot)

/-! ## Rules -/

/-- Whether an element at the top of a document declares a name. -/
structure DeclaresName (document : Xml.Document) (construct : String) (name : ExpandedName)
    (index : Nat) (spot : Spot) : Prop where
  isChild : document.spot.child? index = some spot
  construct : constructOf? spot.tag = some construct
  namespaceName : name.namespaceName = document.root.attribute? "targetNamespace"
  localName : spot.tag.attribute? "name" = some name.localName

/-- Whether no type at the top of a document declares a name. -/
def NoType (document : Xml.Document) (name : ExpandedName) : Prop :=
  ∀ construct ∈ ["complexType", "simpleType"], ∀ index spot,
    ¬DeclaresName document construct name index spot

/-- Whether a type is that of the class for a complex type, if classes are made for given ones. -/
def HasClass (outline : Outline) (types : List ComplexType) (complexType : ComplexType)
    (type : TypeRef) : Prop :=
  ∃ id : ClassId, types[id.index]? = some complexType ∧ outline.typeOf? id = some type

/-- Whether the use of a type stands for a type of an outline, whose classes are made for given
complex types. -/
inductive UseType (document : Xml.Document) (outline : Outline) (types : List ComplexType) :
    TypeUse → TypeRef → Prop
  /-- What is not given is text. -/
  | absent : UseType document outline types .absent .string
  /-- A union is text. -/
  | union : UseType document outline types (.inline .union) .string
  /-- What has no definition is text. -/
  | undefined : UseType document outline types (.inline .undefined) .string
  /-- A restriction is what its base is. -/
  | restriction {base : TypeUse} {type : TypeRef} (isBase : UseType document outline types base type) :
      UseType document outline types (.inline (.restriction base)) type
  /-- A list has items. -/
  | list {item : TypeUse} {type : TypeRef} (isItem : UseType document outline types item type) :
      UseType document outline types (.inline (.list item)) (.listOf type)
  /-- The name of a complex type stands for its class. -/
  | complexType {name : ExpandedName} {index : Nat} {spot : Spot} {type : TypeRef}
      (declares : DeclaresName document "complexType" name index spot)
      (hasClass : HasClass outline types (.top spot.tag [index] spot) type) :
      UseType document outline types (.named (.ok name)) type
  /-- The name of a simple type stands for its definition. -/
  | simpleType {name : ExpandedName} {index : Nat} {spot : Spot} {type : TypeRef}
      (declares : DeclaresName document "simpleType" name index spot)
      (defined : UseType document outline types (.inline (simpleType spot.scope spot.content)) type) :
      UseType document outline types (.named (.ok name)) type
  /-- Other names are those of built-in types. -/
  | builtin {name : ExpandedName} {type : TypeRef}
      (undeclared : NoType document name) (isBuiltin : builtinType? name = some type) :
      UseType document outline types (.named (.ok name)) type

/-- Whether the declaration of an element stands for a type of an outline.  A complex type in it is
known by its position in the element and by itself. -/
inductive ElementType (document : Xml.Document) (outline : Outline) (types : List ComplexType)
    (spot : Spot) (anonymous : Nat → Spot → ComplexType) : TypeRef → Prop
  /-- The type that the element names. -/
  | named {name : Deferred ExpandedName} {type : TypeRef}
      (use : typeUse spot.scope spot.tag spot.content = .named name)
      (useType : UseType document outline types (.named name) type) :
      ElementType document outline types spot anonymous type
  /-- The class for the complex type in the element. -/
  | anonymous {index : Nat} {inner : Spot} {type : TypeRef}
      (noType : spot.tag.attribute? "type" = none)
      (first : firstComplexType? spot = some (index, inner))
      (hasClass : HasClass outline types (anonymous index inner) type) :
      ElementType document outline types spot anonymous type
  /-- The simple type in the element. -/
  | simple {definition : SimpleType} {type : TypeRef} (noComplex : firstComplexType? spot = none)
      (use : typeUse spot.scope spot.tag spot.content = .inline definition)
      (useType : UseType document outline types (.inline definition) type) :
      ElementType document outline types spot anonymous type
  /-- The type above all others. -/
  | absent (noComplex : firstComplexType? spot = none)
      (use : typeUse spot.scope spot.tag spot.content = .absent) :
      ElementType document outline types spot anonymous .object

/-! ## Resolution -/

section Resolution

variable {options : BindingOptions} {document : Xml.Document} {portraits : List Portrait}
  {outline : Outline} {name : ExpandedName}

/-- The class for a complex type has the type that the names around the type make up. -/
theorem hasClass_of_binds
    (describes : Describes options document portraits)
    (depicts : Depicts options document outline portraits)
    {complexType : ComplexType}
    (binds : Binds document complexType) :
    HasClass outline (complexTypes document) complexType
      (.reference (settingOf options document).packageName complexType.path) := by
  obtain ⟨index, isType⟩ := List.mem_iff_getElem?.1 (mem_complexTypes_iff.2 binds)
  obtain ⟨portrait, isPortrait, rfl, _⟩ := describes.exists_portrait isType
  exact ⟨⟨index⟩, isType, depicts.typed isPortrait⟩

/-- Whether the first pass succeeds over a document. -/
structure Registered (options : BindingOptions) (document : Xml.Document) : Prop where
  registrable : ∀ child ∈ document.spot.children, Registrable (settingOf options document) child.2
  proper : (environmentOf options document).globals.Proper

theorem Describes.registered
    (describes : Describes options document portraits) :
    Registered options document :=
  ⟨describes.registrable, describes.proper⟩

/-- What is noted under a name is declared under that name. -/
theorem Registered.declaresName
    (registered : Registered options document)
    {child : Nat × Spot}
    (isChild : child ∈ document.spot.children)
    {construct : String}
    (isConstruct : constructOf? child.2.tag = some construct)
    (known : construct ∈ ["complexType", "simpleType", "element", "attribute"]) :
    DeclaresName document construct ((settingOf options document).nameAt child.2) child.1
      child.2 where
  isChild := Spot.mem_children.1 isChild
  construct := isConstruct
  namespaceName := rfl
  localName := by
    have named := (registered.registrable child isChild).named (by rw [isConstruct]; simpa using known)
    obtain ⟨name, isName⟩ := Option.isSome_iff_exists.1 named
    rw [isName, Setting.nameAt, nameOf, isName]
    rfl

/-- What is declared under a name is noted under that name. -/
theorem nameAt_of_declaresName
    {construct : String}
    {index : Nat}
    {spot : Spot}
    (declares : DeclaresName document construct name index spot) :
    (settingOf options document).nameAt spot = name := by
  unfold Setting.nameAt nameOf
  rw [declares.localName]
  exact congrArg (fun target => (⟨target, name.localName⟩ : ExpandedName)) declares.namespaceName.symm

theorem Registered.lookup_complexType
    (registered : Registered options document)
    {index : Nat}
    {spot : Spot}
    (declares : DeclaresName document "complexType" name index spot) :
    ∃ id, (environmentOf options document).globals.types.lookup name =
      some (.complex id ((settingOf options document).classType spot)) := by
  have isChild := Spot.mem_children.2 declares.isChild
  have isName : (settingOf options document).nameAt spot = name := nameAt_of_declaresName declares
  obtain ⟨id, noted, _⟩ := mem_types_of_complex isChild declares.construct
  exact ⟨id, lookup_of_mem registered.proper.types (isName ▸ noted)⟩

theorem Registered.lookup_simpleType
    (registered : Registered options document)
    {index : Nat}
    {spot : Spot}
    (declares : DeclaresName document "simpleType" name index spot) :
    (environmentOf options document).globals.types.lookup name =
      some (.simple (simpleType spot.scope spot.content)) := by
  have isChild := Spot.mem_children.2 declares.isChild
  have isName : (settingOf options document).nameAt spot = name := nameAt_of_declaresName declares
  exact lookup_of_mem registered.proper.types
    (simple_mem_types_iff.2 ⟨_, isChild, declares.construct, isName, rfl⟩)

/-- A name is not that of a complex type and of a simple type. -/
theorem Registered.not_declares_both
    (registered : Registered options document)
    {index otherIndex : Nat}
    {spot otherSpot : Spot}
    (isComplex : DeclaresName document "complexType" name index spot) :
    ¬DeclaresName document "simpleType" name otherIndex otherSpot := by
  intro isSimple
  obtain ⟨_, found⟩ := registered.lookup_complexType isComplex
  rw [registered.lookup_simpleType isSimple] at found
  cases found

theorem Registered.lookup_attribute
    (registered : Registered options document)
    {index : Nat}
    {spot : Spot}
    (declares : DeclaresName document "attribute" name index spot) :
    (environmentOf options document).globals.attributes.lookup name =
      some (typeUse spot.scope spot.tag spot.content) := by
  have isChild := Spot.mem_children.2 declares.isChild
  have isName : (settingOf options document).nameAt spot = name := nameAt_of_declaresName declares
  exact lookup_of_mem registered.proper.attributes
    (mem_attributes_iff.2 ⟨_, isChild, declares.construct, isName, rfl⟩)

/-- A name under which no type is noted is declared by no type. -/
theorem Registered.noType_of_lookup
    (registered : Registered options document)
    (missing : (environmentOf options document).globals.types.lookup name = none) :
    NoType document name := by
  intro construct known index spot declares
  rcases List.mem_pair.1 known with rfl | rfl
  · obtain ⟨_, found⟩ := registered.lookup_complexType declares
    rw [missing] at found
    cases found
  · have found := registered.lookup_simpleType declares
    rw [missing] at found
    cases found

/-- No type is noted under a name that no type declares. -/
theorem Registered.lookup_of_noType
    (registered : Registered options document)
    (undeclared : NoType document name) :
    (environmentOf options document).globals.types.lookup name = none := by
  by_contra noted
  obtain ⟨definition, found⟩ := Option.ne_none_iff_exists'.1 noted
  cases definition with
  | complex id type =>
      obtain ⟨child, isChild, isComplex, rfl, _⟩ := complex_of_mem_types (mem_of_lookup found)
      exact undeclared _ (by decide) _ _ (registered.declaresName isChild isComplex (by decide))
  | simple definition =>
      obtain ⟨child, isChild, isSimple, rfl, _⟩ := simple_mem_types_iff.1 (mem_of_lookup found)
      exact undeclared _ (by decide) _ _ (registered.declaresName isChild isSimple (by decide))

/-- What the use of a type is resolved to is what it stands for in the end. -/
theorem useType_of_resolveUse
    (describes : Describes options document portraits)
    (depicts : Depicts options document outline portraits)
    {pending : List ExpandedName}
    {use : TypeUse}
    {type : TypeRef}
    (resolved : (environmentOf options document).globals.resolveUse pending use = .ok type) :
    UseType document outline (complexTypes document) use type := by
  generalize sameGlobals : (environmentOf options document).globals = globals at resolved
  fun_induction Globals.resolveUse globals pending use generalizing type with
  | case1 =>
      obtain rfl := Except.ok.inj resolved
      exact .absent
  | case2 =>
      obtain rfl := Except.ok.inj resolved
      exact .union
  | case3 =>
      obtain rfl := Except.ok.inj resolved
      exact .undefined
  | case4 pending base inductionHypothesis => exact .restriction (inductionHypothesis resolved)
  | case5 pending item inductionHypothesis =>
      obtain ⟨itemType, itemResolved, same⟩ := bind_eq_ok_iff.1 resolved
      obtain rfl := Except.ok.inj same
      exact .list (inductionHypothesis itemResolved)
  | case6 | case9 | case11 => cases resolved
  | case7 pending name id classType declared =>
      obtain rfl := Except.ok.inj resolved
      rw [← sameGlobals] at declared
      obtain ⟨child, isChild, isComplex, rfl, rfl, _⟩ := complex_of_mem_types (mem_of_lookup declared)
      have binds : Binds document (.top child.2.tag [child.1] child.2) :=
        .complexType (Spot.mem_children.1 isChild) isComplex
      exact .complexType (describes.registered.declaresName isChild isComplex (by decide))
        (hasClass_of_binds describes depicts binds)
  | case8 pending name definition declared fresh fewer inductionHypothesis =>
      rw [← sameGlobals] at declared
      obtain ⟨child, isChild, isSimple, rfl, rfl⟩ := simple_mem_types_iff.1 (mem_of_lookup declared)
      exact .simpleType (describes.registered.declaresName isChild isSimple (by decide))
        (inductionHypothesis resolved)
  | case10 pending name undeclared builtin isBuiltin =>
      obtain rfl := Except.ok.inj resolved
      rw [← sameGlobals] at undeclared
      exact .builtin (describes.registered.noType_of_lookup undeclared) isBuiltin

theorem noType_of_typeUse
    {spot : Spot}
    (notNamed : ∀ name, typeUse spot.scope spot.tag spot.content ≠ .named name) :
    spot.tag.attribute? "type" = none := by
  by_contra hasType
  obtain ⟨text, isText⟩ := Option.ne_none_iff_exists'.1 hasType
  apply notNamed (resolveName spot.scope text)
  rw [typeUse, reference?, isText]
  rfl

/-- What the declaration of an element is resolved to is what it stands for in the end. -/
theorem elementType_of_resolved
    (describes : Describes options document portraits)
    (depicts : Depicts options document outline portraits)
    {spot : Spot}
    {anonymous : Nat → Spot → ComplexType}
    {classType type : TypeRef}
    (hasClass : ∀ {index inner}, spot.tag.attribute? "type" = none →
      firstComplexType? spot = some (index, inner) →
        HasClass outline (complexTypes document) (anonymous index inner) classType)
    (resolved : (environmentOf options document).globals.elementType (elementAt spot classType) =
      .ok type) :
    ElementType document outline (complexTypes document) spot anonymous type := by
  unfold Globals.elementType elementAt at resolved
  dsimp only at resolved
  cases use : typeUse spot.scope spot.tag spot.content with
  | named name =>
      rw [use] at resolved
      exact .named use (useType_of_resolveUse describes depicts resolved)
  | inline definition =>
      rw [use] at resolved
      have noType : spot.tag.attribute? "type" = none := noType_of_typeUse (by simp [use])
      cases first : firstComplexType? spot with
      | none =>
          rw [first] at resolved
          exact .simple first use (useType_of_resolveUse describes depicts resolved)
      | some found =>
          rw [first] at resolved
          obtain rfl := Except.ok.inj resolved
          exact .anonymous noType first (hasClass noType first)
  | absent =>
      rw [use] at resolved
      have noType : spot.tag.attribute? "type" = none := noType_of_typeUse (by simp [use])
      cases first : firstComplexType? spot with
      | none =>
          rw [first] at resolved
          obtain rfl := Except.ok.inj resolved
          exact .absent first use
      | some found =>
          rw [first] at resolved
          obtain rfl := Except.ok.inj resolved
          exact .anonymous noType first (hasClass noType first)

/-- An element at the top that is referred to stands for what it is resolved to. -/
theorem elementType_of_lookup
    (describes : Describes options document portraits)
    (depicts : Depicts options document outline portraits)
    {element : ElementDefinition}
    {type : TypeRef}
    (declared : (environmentOf options document).globals.elements.lookup name = some element)
    (resolved : (environmentOf options document).globals.elementType element = .ok type) :
    ∃ index spot, DeclaresName document "element" name index spot ∧
      ElementType document outline (complexTypes document) spot
        (fun inner body => .top spot.tag [index, inner] body) type := by
  obtain ⟨child, isChild, isElement, rfl, rfl⟩ := mem_elements_iff.1 (mem_of_lookup declared)
  refine ⟨child.1, child.2, describes.registered.declaresName isChild isElement (by decide), ?_⟩
  refine elementType_of_resolved describes depicts (fun {index inner} _ first => ?_) resolved
  have binds : Binds document (.top child.2.tag [child.1, index] inner) :=
    .element (Spot.mem_children.1 isChild) isElement first
  exact hasClass_of_binds describes depicts binds

end Resolution

/-! ## Uniqueness -/

section Uniqueness

variable {options : BindingOptions} {document : Xml.Document} {portraits : List Portrait}
  {outline : Outline}

/-- Parts from which the same is read are the same, if nothing is read twice. -/
theorem eq_of_nodup_filterMap
    {Item Result : Type}
    {read : Item → Option Result}
    {items : List Item}
    (nodup : (items.filterMap read).Nodup)
    {left right : Item}
    (isLeft : left ∈ items)
    (isRight : right ∈ items)
    (result : Result)
    (leftRead : read left = some result)
    (rightRead : read right = some result) :
    left = right := by
  have apart : items.Pairwise fun first second =>
      ∀ found, read first = some found → read second ≠ some found := by
    rw [List.Nodup, List.pairwise_filterMap] at nodup
    exact nodup.imp fun different found isFirst isSecond =>
      different found isFirst found isSecond rfl
  have symmetric : Std.Symm fun first second =>
      ∀ found, read first = some found → read second ≠ some found :=
    ⟨fun _ _ different found isFirst isSecond => different found isSecond isFirst⟩
  by_contra different
  exact apart.forall isLeft isRight different result leftRead rightRead

/-- A name is declared by one element at the top for each kind of declarations. -/
theorem Registered.eq_of_declares
    (registered : Registered options document)
    {construct : String}
    (known : construct ∈ ["complexType", "simpleType", "element", "attribute"])
    {name : ExpandedName}
    {index otherIndex : Nat}
    {spot otherSpot : Spot}
    (declares : DeclaresName document construct name index spot)
    (declaresToo : DeclaresName document construct name otherIndex otherSpot) :
    (index, spot) = (otherIndex, otherSpot) := by
  have same : ∀ {Entry : Type} (noted? : Spot → Option (ExpandedName × Entry)),
      ((document.spot.children.filterMap fun child => noted? child.2).map Prod.fst).Nodup →
        (∀ other, constructOf? other.tag = some construct →
          (noted? other).map Prod.fst = some ((settingOf options document).nameAt other)) →
        (index, spot) = (otherIndex, otherSpot) := by
    intro Entry noted? nodup notes
    rw [List.map_filterMap] at nodup
    apply eq_of_nodup_filterMap nodup (Spot.mem_children.2 declares.isChild)
      (Spot.mem_children.2 declaresToo.isChild) name
    · rw [notes spot declares.construct, nameAt_of_declaresName declares]
    · rw [notes otherSpot declaresToo.construct, nameAt_of_declaresName declaresToo]
  have proper := registered.proper
  have types := proper.types
  rw [← map_fst_unnumbered, environmentOf, types_registryOf] at types
  have elements := proper.elements
  rw [environmentOf, elements_registryOf] at elements
  have attributes := proper.attributes
  rw [environmentOf, attributes_registryOf] at attributes
  simp only [List.mem_cons, List.not_mem_nil, or_false] at known
  rcases known with rfl | rfl | rfl | rfl
  · exact same _ types fun other isConstruct => by simp [notedType?, isConstruct]
  · exact same _ types fun other isConstruct => by simp [notedType?, isConstruct]
  · exact same _ elements fun other isConstruct => by simp [notedElement?, isConstruct]
  · exact same _ attributes fun other isConstruct => by simp [notedAttribute?, isConstruct]

/-- The class for a complex type has one type. -/
theorem HasClass.unique
    {complexType : ComplexType}
    {first second : TypeRef}
    (isFirst : HasClass outline (complexTypes document) complexType first)
    (isSecond : HasClass outline (complexTypes document) complexType second) :
    first = second := by
  obtain ⟨id, isType, typed⟩ := isFirst
  obtain ⟨other, isTypeToo, typedToo⟩ := isSecond
  have nodup := List.Nodup.of_map _ (nodup_places document)
  have bound := (List.getElem?_eq_some_iff.1 isType).1
  have same : id.index = other.index :=
    (List.getElem?_inj bound nodup).1 (isType.trans isTypeToo.symm)
  obtain rfl := ClassId.eq_of_index_eq same
  exact Option.some.inj (typed.symm.trans typedToo)

/-- The use of a type stands for one type. -/
theorem Describes.useType_unique
    (describes : Describes options document portraits)
    {use : TypeUse}
    {first second : TypeRef}
    (isFirst : UseType document outline (complexTypes document) use first)
    (isSecond : UseType document outline (complexTypes document) use second) :
    first = second := by
  induction isFirst generalizing second with
  | absent | union | undefined =>
      cases isSecond
      rfl
  | restriction isBase inductionHypothesis =>
      cases isSecond with
      | restriction isBaseToo => exact inductionHypothesis isBaseToo
  | list isItem inductionHypothesis =>
      cases isSecond with
      | list isItemToo => rw [inductionHypothesis isItemToo]
  | complexType declares hasClass =>
      cases isSecond with
      | complexType declaresToo hasClassToo =>
          obtain ⟨rfl, rfl⟩ :=
            Prod.mk.inj (describes.registered.eq_of_declares (by decide) declares declaresToo)
          exact hasClass.unique hasClassToo
      | simpleType declaresToo =>
          exact absurd declaresToo (describes.registered.not_declares_both declares)
      | builtin undeclared => exact absurd declares (undeclared _ (by decide) _ _)
  | simpleType declares defined inductionHypothesis =>
      cases isSecond with
      | complexType declaresToo =>
          exact absurd declares (describes.registered.not_declares_both declaresToo)
      | simpleType declaresToo definedToo =>
          obtain ⟨rfl, rfl⟩ :=
            Prod.mk.inj (describes.registered.eq_of_declares (by decide) declares declaresToo)
          exact inductionHypothesis definedToo
      | builtin undeclared => exact absurd declares (undeclared _ (by decide) _ _)
  | builtin undeclared isBuiltin =>
      cases isSecond with
      | complexType declares | simpleType declares =>
          exact absurd declares (undeclared _ (by decide) _ _)
      | builtin _ isBuiltinToo => exact Option.some.inj (isBuiltin.symm.trans isBuiltinToo)

/-- The declaration of an element stands for one type. -/
theorem Describes.elementType_unique
    (describes : Describes options document portraits)
    {spot : Spot}
    {anonymous : Nat → Spot → ComplexType}
    {first second : TypeRef}
    (isFirst : ElementType document outline (complexTypes document) spot anonymous first)
    (isSecond : ElementType document outline (complexTypes document) spot anonymous second) :
    first = second := by
  cases isFirst with
  | named use useType =>
      cases isSecond with
      | named useToo useTypeToo =>
          rw [use, Use.named.injEq] at useToo
          subst useToo
          exact describes.useType_unique useType useTypeToo
      | anonymous noType => exact absurd use (typeUse_ne_named noType _)
      | simple _ useToo | absent _ useToo => cases use.symm.trans useToo
  | anonymous noType isAnonymous hasClass =>
      cases isSecond with
      | named use => exact absurd use (typeUse_ne_named noType _)
      | anonymous _ isAnonymousToo hasClassToo =>
          obtain ⟨rfl, rfl⟩ :=
            Prod.mk.inj (Option.some.inj (isAnonymous.symm.trans isAnonymousToo))
          exact hasClass.unique hasClassToo
      | simple noComplex | absent noComplex => cases isAnonymous.symm.trans noComplex
  | simple noComplex use useType =>
      cases isSecond with
      | anonymous _ isAnonymous => cases noComplex.symm.trans isAnonymous
      | named useToo | absent _ useToo => cases use.symm.trans useToo
      | simple _ useToo useTypeToo =>
          rw [use, Use.inline.injEq] at useToo
          subst useToo
          exact describes.useType_unique useType useTypeToo
  | absent noComplex use =>
      cases isSecond with
      | anonymous _ isAnonymous => cases noComplex.symm.trans isAnonymous
      | named useToo | simple _ useToo => cases use.symm.trans useToo
      | absent => rfl

end Uniqueness

end Schema
end SchemaBinding
