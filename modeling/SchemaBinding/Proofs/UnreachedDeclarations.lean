import SchemaBinding.Proofs.ReachedTypes
import SchemaBinding.Proofs.Reordering
import SchemaBinding.Proofs.SchemaDerivations

/-!
# Declarations that nothing leads to

Simple types, elements and attributes at the top of a schema are looked at when the content of a
complex type leads to them, and not otherwise.  So what types they refer to matters for the former
only: declarations that nothing leads to may be replaced by others of the same kinds and names, and the
schema is still accepted.
-/

namespace SchemaBinding
namespace Schema

open Relation (TransGen)
open Xml (Spot)

/-! ## Rules -/

/-- Whether the content of complex types leads to a declaration at the top, by its kind and name. -/
def LeadsTo (document : Xml.Document) (construct : String) (name : ExpandedName) : Prop :=
  construct = "simpleType" ∧ Reached document (.named (.ok name)) ∨
    construct = "element" ∧ RefersTo document .particle name ∨
    construct = "attribute" ∧ RefersTo document .attributeUse name

/-- Whether an element may stand for another one at the top of a document: both declare the same name
for the same kind of declaration, neither has a complex type that a class would be made for, and
nothing leads to the declaration. -/
structure Replaces (document : Xml.Document) (child other : Nat × Spot) : Prop where
  position : other.1 = child.1
  construct : constructOf? child.2.tag ∈ [some "simpleType", some "element", some "attribute"]
  sameConstruct : constructOf? other.2.tag = constructOf? child.2.tag
  sameName : other.2.tag.attribute? "name" = child.2.tag.attribute? "name"
  noClass : topType? child = none
  noOtherClass : topType? other = none
  unreached : ∀ construct name, DeclaresName document construct name child.1 child.2 →
    ¬LeadsTo document construct name

/-- Whether two documents differ at most in declarations that nothing leads to. -/
structure SameWithinReach (first second : Xml.Document) : Prop where
  root : second.root = first.root
  children : List.Forall₂ (fun child other => child = other ∨ Replaces first child other)
    first.spot.children second.spot.children

/-! ## Reach -/

/-- What the content of the complex types of a document leads to. -/
def reachOf (document : Xml.Document) : Reach where
  uses := Reached document
  elements := RefersTo document .particle
  attributes := RefersTo document .attributeUse

section Reach

variable {options : BindingOptions} {document : Xml.Document} {portraits : List Portrait}
  {type : ComplexType} {item : Item}

theorem Describes.closed_reachOf
    (describes : Describes options document portraits) :
    (reachOf document).Closed (environmentOf options document).globals where
  restriction := .restriction
  list := .list
  simple reached declared := by
    obtain ⟨child, isChild, isSimple, rfl, rfl⟩ := simple_mem_types_iff.1 (mem_of_lookup declared)
    exact .definition reached (describes.registered.declaresName isChild isSimple (by decide))
  elementType refers declared usesType := by
    obtain ⟨child, isChild, isElement, rfl, rfl⟩ := mem_elements_iff.1 (mem_of_lookup declared)
    exact .elementReference refers (describes.registered.declaresName isChild isElement (by decide))
      (usesType_elementAt_iff.1 usesType)
  attributeType refers declared := by
    obtain ⟨child, isChild, isAttribute, rfl, rfl⟩ := mem_attributes_iff.1 (mem_of_lookup declared)
    exact .attributeReference refers
      (describes.registered.declaresName isChild isAttribute (by decide))

theorem covers_reachOf
    (binds : Binds document type)
    (member : item ∈ contentItems type.spot) :
    (reachOf document).Covers item := by
  have mapped : ∀ {role : Role}, item.role = role → role ≠ .unsupported → Mapped type.spot item :=
    fun isRole supported => (mem_contentItems_iff (isRole ▸ supported)).1 member
  constructor
  case element =>
    exact fun classType isParticle noReference usesType => .element binds
      (mapped isParticle (by decide)) isParticle noReference (usesType_elementAt_iff.1 usesType)
  case elementReference =>
    exact fun isParticle isReference resolved => .part binds (mapped isParticle (by decide))
      isParticle nofun isReference resolved
  case attributeUse =>
    exact fun isAttribute allowed noReference => .attributeUse binds
      (mapped isAttribute (by decide)) isAttribute allowed noReference
  case attributeReference =>
    exact fun isAttribute allowed isReference resolved => .part binds
      (mapped isAttribute (by decide)) isAttribute (fun _ => allowed) isReference resolved
  case base =>
    intro text name isBase given resolved
    have isMapped : Mapped type.spot item := by
      rcases isBase with role | role <;> exact mapped role (by decide)
    exact resolved ▸ .base binds isMapped isBase given

end Reach

/-! ## Documents -/

section Pairs

variable {Source Target Result : Type} {related : Source → Target → Prop} {sources : List Source}
  {targets : List Target}

theorem filterMap_eq_of_forall₂
    {read : Source → Option Result}
    {readToo : Target → Option Result}
    (relates : List.Forall₂ related sources targets)
    (same : ∀ {source target}, related source target → readToo target = read source) :
    targets.filterMap readToo = sources.filterMap read := by
  induction relates with
  | nil => rfl
  | cons first _ inductionHypothesis =>
      rw [List.filterMap_cons, List.filterMap_cons, same first, inductionHypothesis]

/-- What is found under a name is the same if the same is found in each of the entries. -/
theorem lookup_eq_of_forall₂
    {name : ExpandedName}
    {noted? : Source → Option (ExpandedName × Result)}
    {notedToo? : Target → Option (ExpandedName × Result)}
    (relates : List.Forall₂ related sources targets)
    (same : ∀ {source target}, related source target →
      (notedToo? target).toList.lookup name = (noted? source).toList.lookup name) :
    (targets.filterMap notedToo?).lookup name = (sources.filterMap noted?).lookup name := by
  rw [List.filterMap_eq_flatMap_toList, List.filterMap_eq_flatMap_toList]
  induction relates with
  | nil => rfl
  | cons first _ inductionHypothesis =>
      rw [List.flatMap_cons, List.flatMap_cons, List.lookup_append, List.lookup_append, same first,
        inductionHypothesis]

end Pairs

namespace SameWithinReach

variable {first second : Xml.Document} {setting : Setting} {options : BindingOptions}
  {portraits : List Portrait}

theorem settingOf_eq
    (same : SameWithinReach first second)
    (options : BindingOptions) :
    settingOf options second = settingOf options first := by
  rw [settingOf, settingOf, same.root]

/-- The elements at the top in pairs, with those of the first document where they stand. -/
theorem pairs
    (same : SameWithinReach first second) :
    List.Forall₂ (fun child other => child ∈ first.spot.children ∧
      (child = other ∨ Replaces first child other)) first.spot.children second.spot.children :=
  (List.forall₂_and_left _ _).2 ⟨fun _ isChild => isChild, same.children⟩

theorem exists_child
    (same : SameWithinReach first second)
    {other : Nat × Spot}
    (isOther : other ∈ second.spot.children) :
    ∃ child ∈ first.spot.children, child = other ∨ Replaces first child other :=
  exists_of_mem_of_forall₂ same.children.flip isOther

/-- What is read from the elements at the top is the same if the same is read from those that are
replaced. -/
theorem filterMap_eq
    {Result : Type}
    (same : SameWithinReach first second)
    {read : Nat × Spot → Option Result}
    (replaced : ∀ {child other}, Replaces first child other → read other = read child) :
    second.spot.children.filterMap read = first.spot.children.filterMap read := by
  apply filterMap_eq_of_forall₂ same.children
  rintro child other (rfl | replaces)
  · rfl
  · exact replaced replaces

theorem topTypes_eq
    (same : SameWithinReach first second) :
    topTypes second = topTypes first :=
  same.filterMap_eq fun replaces => replaces.noOtherClass.trans replaces.noClass.symm

/-- The complex types that classes are made for are the same. -/
theorem complexTypes_eq
    (same : SameWithinReach first second) :
    complexTypes second = complexTypes first := by
  rw [complexTypes, complexTypes, innerTypes, innerTypes, same.topTypes_eq]

/-! ### What is noted -/

theorem nameAt_eq
    {child other : Nat × Spot}
    (replaces : Replaces first child other) :
    setting.nameAt other.2 = setting.nameAt child.2 := by
  unfold Setting.nameAt nameOf
  rw [replaces.sameName]

theorem construct_ne_complexType
    {child other : Nat × Spot}
    (replaces : Replaces first child other) :
    constructOf? child.2.tag ≠ some "complexType" := by
  intro isComplex
  have construct := replaces.construct
  rw [isComplex] at construct
  revert construct
  decide

/-- Under a name that something leads to, the same is noted. -/
theorem lookup_eq
    {Entry : Type}
    (same : SameWithinReach first second)
    (describes : Describes options first portraits)
    (construct : String)
    (known : construct ∈ ["complexType", "simpleType", "element", "attribute"])
    {noted? : Spot → Option (ExpandedName × Entry)}
    (notes : ∀ {spot entry}, constructOf? spot.tag ≠ some "complexType" →
      noted? spot = some entry → constructOf? spot.tag = some construct ∧
        entry.1 = (settingOf options first).nameAt spot)
    {name : ExpandedName}
    (leads : LeadsTo first construct name) :
    (second.spot.children.filterMap fun child => noted? child.2).lookup name =
      (first.spot.children.filterMap fun child => noted? child.2).lookup name := by
  apply lookup_eq_of_forall₂ same.pairs
  rintro child other ⟨isChild, rfl | replaces⟩
  · rfl
  · have noComplex := construct_ne_complexType replaces
    -- An entry under this name would be for a declaration that something leads to.
    have absent : ∀ spot : Spot, constructOf? spot.tag = constructOf? child.2.tag →
        (settingOf options first).nameAt spot = (settingOf options first).nameAt child.2 →
          (noted? spot).toList.lookup name = none := by
      intro spot sameConstruct sameName
      cases found : noted? spot with
      | none => rfl
      | some entry =>
          obtain ⟨isConstruct, isName⟩ := notes (sameConstruct ▸ noComplex) found
          have declares :=
            describes.registered.declaresName isChild (sameConstruct ▸ isConstruct) known
          have apart : name ≠ entry.1 := by
            intro sameEntry
            rw [← sameName, ← isName, ← sameEntry] at declares
            exact replaces.unreached _ _ declares leads
          simpa using apart
    rw [absent other.2 replaces.sameConstruct (nameAt_eq replaces), absent child.2 rfl rfl]

theorem alikeWithin
    (same : SameWithinReach first second)
    (describes : Describes options first portraits) :
    (environmentOf options first).AlikeWithin (reachOf first) (environmentOf options second) where
  target := congrArg (fun root : Xml.Tag => root.attribute? "targetNamespace") same.root
  closed := describes.closed_reachOf
  globals := by
    unfold environmentOf
    rw [same.settingOf_eq]
    constructor
    case types =>
      intro name reached
      rw [← lookup_map, ← lookup_map, types_registryOf, types_registryOf]
      refine same.lookup_eq describes "simpleType" (by decide) ?_ (.inl ⟨rfl, reached⟩)
      intro spot entry noComplex noted
      rw [notedType?, if_neg noComplex] at noted
      split_ifs at noted with isSimple
      exact ⟨isSimple, by rw [← Option.some.inj noted]⟩
    case elements =>
      intro name refers
      dsimp only
      rw [elements_registryOf, elements_registryOf]
      refine same.lookup_eq describes "element" (by decide) ?_
        (.inr (.inl ⟨rfl, refers⟩))
      intro spot entry _ noted
      unfold notedElement? at noted
      split_ifs at noted with isElement
      exact ⟨isElement, by rw [← Option.some.inj noted]⟩
    case attributes =>
      intro name refers
      dsimp only
      rw [attributes_registryOf, attributes_registryOf]
      refine same.lookup_eq describes "attribute" (by decide) ?_
        (.inr (.inr ⟨rfl, refers⟩))
      intro spot entry _ noted
      unfold notedAttribute? at noted
      split_ifs at noted with isAttribute
      exact ⟨isAttribute, by rw [← Option.some.inj noted]⟩

theorem portraitIn?_eq
    (same : SameWithinReach first second)
    (describes : Describes options first portraits)
    {type : ComplexType}
    (isType : type ∈ complexTypes first) :
    portraitIn? options second type = portraitIn? options first type := by
  have binds := mem_complexTypes_iff.1 isType
  have contribute : ∀ item ∈ contentItems type.spot, ∀ path,
      item.contribution (environmentOf options second) (settingOf options first).packageName path =
        item.contribution (environmentOf options first) (settingOf options first).packageName path :=
    fun item member path =>
      (same.alikeWithin describes).contribution_eq (covers_reachOf binds member) _ path
  have retyped := ComplexType.portrait?_eq contribute (Eq.refl type.spot) rfl
  obtain ⟨index, isType⟩ := List.mem_iff_getElem?.1 isType
  obtain ⟨portrait, _, rfl, described⟩ := describes.exists_portrait isType
  unfold portraitIn? at described ⊢
  rw [same.settingOf_eq, retyped, described]
  rfl

/-! ### Acceptance -/

theorem registrable_iff
    {child other : Nat × Spot}
    (replaces : Replaces first child other) :
    Registrable setting other.2 ↔ Registrable setting child.2 := by
  have registrable_iff : ∀ spot, Registrable setting spot ↔
      (constructOf? spot.tag ∈
        [some "complexType", some "simpleType", some "element", some "attribute"] →
          (spot.tag.attribute? "name").isSome) ∧
      (constructOf? spot.tag ∈ [some "complexType", some "simpleType"] →
        isBuiltin (setting.nameAt spot) → setting.overwrite ≠ .deny) :=
    fun _ => ⟨fun registrable => ⟨registrable.named, registrable.allowed⟩, fun both => ⟨both.1, both.2⟩⟩
  rw [registrable_iff, registrable_iff, replaces.sameConstruct, replaces.sameName,
    nameAt_eq replaces]

/-- The names that are declared are the same. -/
theorem proper
    (same : SameWithinReach first second)
    (proper : (registryOf setting first).globals.Proper) :
    (registryOf setting second).globals.Proper := by
  have names : ∀ {Entry : Type} {noted? : Spot → Option (ExpandedName × Entry)},
      (∀ {spot other : Spot}, constructOf? other.tag = constructOf? spot.tag →
        setting.nameAt other = setting.nameAt spot →
          (noted? other).map Prod.fst = (noted? spot).map Prod.fst) →
        (second.spot.children.filterMap fun child => noted? child.2).map Prod.fst =
          (first.spot.children.filterMap fun child => noted? child.2).map Prod.fst := by
    intro Entry noted? notes
    rw [List.map_filterMap, List.map_filterMap]
    exact same.filterMap_eq fun replaces => notes replaces.sameConstruct (nameAt_eq replaces)
  constructor
  case types =>
    rw [← map_fst_unnumbered, types_registryOf, names, ← types_registryOf, map_fst_unnumbered]
    · exact proper.types
    · intro spot other sameConstruct sameName
      unfold notedType?
      rw [sameConstruct, sameName]
      split_ifs <;> rfl
  case elements =>
    rw [elements_registryOf, names, ← elements_registryOf]
    · exact proper.elements
    · intro spot other sameConstruct sameName
      unfold notedElement?
      rw [sameConstruct, sameName]
      split_ifs <;> rfl
  case attributes =>
    rw [attributes_registryOf, names, ← attributes_registryOf]
    · exact proper.attributes
    · intro spot other sameConstruct sameName
      unfold notedAttribute?
      rw [sameConstruct, sameName]
      split_ifs <;> rfl

/-- Portraits describe the other document as well. -/
theorem describes
    (same : SameWithinReach first second)
    (describes : Describes options first portraits) :
    Describes options second portraits where
  isSchema := by
    rw [same.root]
    exact describes.isSchema
  registrable other isOther := by
    rw [same.settingOf_eq]
    obtain ⟨child, isChild, rfl | replaces⟩ := same.exists_child isOther
    · exact describes.registrable child isChild
    · exact (registrable_iff replaces).2 (describes.registrable child isChild)
  proper := by
    unfold environmentOf
    rw [same.settingOf_eq]
    exact same.proper describes.proper
  described := by
    rw [mapM_eq_some_iff, same.complexTypes_eq, ← mapM_eq_some_iff.1 describes.described]
    exact List.map_congr_left fun type isType => same.portraitIn?_eq describes isType

/-- Names of complex types are declared for the same classes. -/
theorem declares
    (same : SameWithinReach first second)
    (describes : Describes options first portraits)
    {id : ClassId}
    {name : ExpandedName}
    (declares : (environmentOf options second).globals.Declares id name) :
    (environmentOf options first).globals.Declares id name := by
  obtain ⟨_, declared⟩ := declares
  obtain ⟨other, isOther, isComplex, rfl, _, isTop⟩ := complex_of_mem_types (mem_of_lookup declared)
  obtain ⟨child, isChild, rfl | replaces⟩ := same.exists_child isOther
  · -- The complex type is the same one in both documents, and there it is numbered alike.
    obtain ⟨firstId, noted, isFirstTop⟩ := mem_types_of_complex isChild isComplex
    have nodup := List.Nodup.of_map _ (nodup_places first)
    rw [same.topTypes_eq] at isTop
    have bound := (List.getElem?_eq_some_iff.1 (getElem?_complexTypes isTop)).1
    have sameIndex := (List.getElem?_inj bound nodup).1
      ((getElem?_complexTypes isTop).trans (getElem?_complexTypes isFirstTop).symm)
    obtain rfl := ClassId.eq_of_index_eq sameIndex
    rw [same.settingOf_eq]
    exact ⟨_, lookup_of_mem describes.proper.types noted⟩
  · rw [replaces.sameConstruct] at isComplex
    exact absurd isComplex (construct_ne_complexType replaces)

theorem consistent
    (same : SameWithinReach first second)
    (describes : Describes options first portraits)
    (consistent : Consistent (environmentOf options first).globals portraits) :
    Consistent (environmentOf options second).globals portraits where
  distinct := consistent.distinct
  acyclic name path := by
    apply consistent.acyclic name (TransGen.mono ?_ _ _ path)
    rintro derived base ⟨id, portrait, declares, isPortrait, isBase⟩
    exact ⟨id, portrait, same.declares describes declares, isPortrait, isBase⟩

/-- An accepted schema is accepted whatever declarations that nothing leads to are replaced by. -/
theorem accepted
    (same : SameWithinReach first second)
    (accepted : ∃ outline, (bindXml options first).1 = .ok outline) :
    ∃ outline, (bindXml options second).1 = .ok outline := by
  obtain ⟨portraits, describes, consistent⟩ := exists_outline_iff.1 accepted
  exact exists_outline_iff.2
    ⟨portraits, same.describes describes, same.consistent describes consistent⟩

end SameWithinReach

/-! ## References of accepted schemas -/

/-- In an accepted schema, every reference to a type that the content of complex types leads to has a
name that is declared at the top or built in, and no simple type at the top that it leads to is derived
from itself.  Declarations that it does not lead to are not looked at: the schema is still accepted if
they are replaced by others of the same kinds and names. -/
theorem references_of_accepted
    {options : BindingOptions}
    {document : Xml.Document}
    {outline : Outline}
    (accepted : (bindXml options document).1 = .ok outline) :
    (∀ reference, Reached document (.named reference) →
      ∃ name, reference = .ok name ∧ IsType document name) ∧
    (∀ name, Reached document (.named (.ok name)) →
      ¬TransGen (SimplyDerived document) name name) ∧
    ∀ other, SameWithinReach document other →
      ∃ outline, (bindXml options other).1 = .ok outline := by
  obtain ⟨portraits, describes, depicts⟩ := depicts_of_accepted accepted
  refine ⟨?_, ?_, fun other same => same.accepted ⟨outline, accepted⟩⟩
  · intro reference reached
    obtain ⟨type, useType⟩ := reached.exists_type describes depicts
    exact useType.isType
  · intro name reached
    obtain ⟨type, useType⟩ := reached.exists_type describes depicts
    exact not_transGen_self_of_acc (useType.acc describes (.named name))

/-- A schema that declares an element only, with a given reference to its type. -/
def orderSchema (reference : String) : Xml.Document where
  root := ⟨schemaName "schema", [⟨some "s", "urn:order"⟩],
    [⟨⟨none, "targetNamespace"⟩, "urn:order"⟩]⟩
  children := [schemaNode "element" [("name", "order"), ("type", reference)] []]

theorem not_binds_orderSchema
    {reference : String}
    {type : ComplexType} :
    ¬Binds (orderSchema reference) type := by
  intro binds
  induction binds with
  | @complexType index spot isChild construct =>
      cases index with
      | zero =>
          obtain rfl := Option.some.inj isChild
          exact absurd construct (show some "element" ≠ some "complexType" by decide)
      | succ index => cases isChild
  | @element index inner element spot isChild construct first =>
      cases index with
      | zero =>
          obtain rfl := Option.some.inj isChild
          cases first
      | succ index => cases isChild
  | nested binds _ _ _ _ _ inductionHypothesis => exact inductionHypothesis

/-- Nothing leads to the type of the element. -/
theorem orderSchema_sameWithinReach
    (reference other : String) :
    SameWithinReach (orderSchema reference) (orderSchema other) where
  root := rfl
  children := by
    refine .cons (.inr ⟨rfl, ?_, rfl, rfl, rfl, rfl, ?_⟩) .nil
    · show some "element" ∈ _
      decide
    · rintro construct name declares (⟨rfl, _⟩ | ⟨_, refers⟩ | ⟨_, refers⟩)
      · exact absurd declares.construct (show some "element" ≠ some "simpleType" by decide)
      · cases refers with
        | part binds => exact not_binds_orderSchema binds
      · cases refers with
        | part binds => exact not_binds_orderSchema binds

/-- The outline of a schema without complex types. -/
def orderOutline : Outline where
  packages := ["order"]
  classes := []
  fields := []
  types := []

theorem order_accepted : (bindXml {} (orderSchema "o:Order")).1 = .ok orderOutline := by
  decide +kernel

/-- What the bases of a schema refer to is a type, and an element that nothing refers to may refer to
anything. -/
theorem fare_references :
    (bindXml {} fareSchema).1 = .ok fareOutline ∧
      Reached fareSchema (.named (.ok ⟨some "urn:fare", "fare"⟩)) ∧
      IsType fareSchema ⟨some "urn:fare", "fare"⟩ ∧
      (bindXml {} (orderSchema "o:Order")).1 = .ok orderOutline ∧
      ∃ outline, (bindXml {} (orderSchema "s:Order")).1 = .ok outline := by
  obtain ⟨spot, isChild, isComplex, content, isContent, derives, inner, derivation, first, given,
      resolved⟩ :
      ∃ spot, fareSchema.spot.child? 1 = some spot ∧
        constructOf? spot.tag = some "complexType" ∧ ∃ content, spot.child? 0 = some content ∧
        constructOf? content.tag = some "simpleContent" ∧
        ∃ inner derivation, firstDerivation? content = some (inner, derivation) ∧
          derivation.tag.attribute? "base" = some "f:fare" ∧
          resolveName derivation.scope "f:fare" = .ok ⟨some "urn:fare", "fare"⟩ :=
    ⟨_, rfl, rfl, _, rfl, rfl, _, _, rfl, rfl, rfl⟩
  have mapped : Mapped spot ⟨[0, inner], .simpleBase, [], derivation⟩ :=
    .simpleBase .itself isContent derives first
  have reached := Reached.base (.complexType isChild isComplex) mapped (.inr rfl) given
  rw [resolved] at reached
  obtain ⟨references, _, _⟩ := references_of_accepted fare_accepted
  obtain ⟨name, same, isType⟩ := references _ reached
  obtain rfl := Except.ok.inj same
  obtain ⟨_, _, unreached⟩ := references_of_accepted order_accepted
  exact ⟨fare_accepted, reached, isType, order_accepted,
    unreached _ (orderSchema_sameWithinReach _ _)⟩

/-- A schema is accepted although the type of an element at the top has a prefix that stands for
nothing. -/
theorem order_dangles :
    (bindXml {} (orderSchema "o:Order")).1 = .ok orderOutline ∧
      ∃ spot, DeclaresName (orderSchema "o:Order") "element" ⟨some "urn:order", "order"⟩ 0 spot ∧
        typeUse spot.scope spot.tag spot.content = .named (.error (.prefixNotResolved "o")) :=
  ⟨order_accepted, _, ⟨rfl, rfl, rfl, rfl⟩, rfl⟩

end Schema
end SchemaBinding
