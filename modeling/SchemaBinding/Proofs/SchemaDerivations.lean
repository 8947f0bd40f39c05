import SchemaBinding.Proofs.DeclaredTypes
import SchemaBinding.Proofs.Derivations

/-!
# Derivations of schemas

Which types of the outline of a schema may stand for which others.  A complex type is derived, in one
step, from the complex type at the top that one of its derivations names.  The outline permits what
a chain of such steps leads to, and nothing else but the object type.
-/

namespace SchemaBinding

open Relation (ReflTransGen TransGen)

/-- A path of supertypes leads from one class to another one exactly if it does between their types. -/
theorem Outline.WellFormed.isAncestor_iff_path
    {outline : Outline}
    (formed : outline.WellFormed)
    {id other : ClassId}
    {type otherType : TypeRef}
    (isClass : id ∈ outline.classIds)
    (typed : outline.typeOf? id = some type)
    (otherTyped : outline.typeOf? other = some otherType) :
    outline.isAncestor otherType type ↔
      ReflTransGen (Extends outline.class?) id other ∨ otherType = .object := by
  have reaches : outline.Reaches type otherType ↔ TransGen (Extends outline.class?) id other := by
    unfold Outline.Reaches
    simp only [formed.classOf?_of_typeOf? isClass typed, Option.some.injEq]
    constructor
    · rintro ⟨_, ancestor, rfl, path, ancestorTyped⟩
      exact formed.distinct ancestorTyped otherTyped ▸ path
    · exact fun path => ⟨id, other, rfl, path, otherTyped⟩
  have same : otherType = type ↔ other = id := by
    constructor
    · rintro rfl
      exact formed.distinct otherTyped typed
    · rintro rfl
      exact Option.some.inj (otherTyped.symm.trans typed)
  rw [formed.isAncestor_iff, reaches, same, Relation.reflTransGen_iff_eq_or_transGen]
  tauto

namespace Schema

open Xml (Spot)

/-! ## Steps of derivation -/

/-- Whether a part of the content is a derivation from a base of a given name. -/
structure Item.IsBase (item : Item) (name : ExpandedName) : Prop where
  derives : item.role = .complexBase ∨ item.role = .simpleBase
  named : ∃ text, item.spot.tag.attribute? "base" = some text ∧
    resolveName item.spot.scope text = .ok name

/-- Whether a complex type is derived from another one in one step: the other one is declared at the
top, under the name of the base of a derivation in the content. -/
inductive DerivedFrom (document : Xml.Document) (type : ComplexType) : ComplexType → Prop
  /-- The complex type that the base names. -/
  | base {item : Item} {name : ExpandedName} {index : Nat} {spot : Spot}
      (mapped : Mapped type.spot item) (isBase : item.IsBase name)
      (declares : DeclaresName document "complexType" name index spot) :
      DerivedFrom document type (.top spot.tag [index] spot)

/-! ## Bases of portraits -/

theorem baseAt_eq_ok_iff
    {spot : Spot}
    {name : ExpandedName} :
    baseAt spot = .ok name ↔
      ∃ text, spot.tag.attribute? "base" = some text ∧ resolveName spot.scope text = .ok name := by
  unfold baseAt requiredReference
  rw [bind_eq_ok_iff]
  refine exists_congr fun text => and_congr_left fun _ => ⟨attribute?_of_required, fun isText => ?_⟩
  rw [required, isText]

section Bases

variable {environment : Environment} {package path : String} {item : Item} {name : ExpandedName}
  {portrait after : Portrait}

/-- A derivation contributes its base if the base is a complex type. -/
theorem baseContribution_eq_base_iff
    {simple : TypeRef → Contribution}
    {spot : Spot}
    (noBase : ∀ type other, simple type ≠ .base other) :
    baseContribution environment simple spot = .ok (.base name) ↔
      baseAt spot = .ok name ∧ ∃ id, environment.globals.Declares id name := by
  unfold baseContribution
  rw [bind_eq_ok_iff]
  constructor
  · rintro ⟨base, isBase, given⟩
    obtain ⟨kind, resolved, given⟩ := bind_eq_ok_iff.1 given
    have isContribution := Except.ok.inj given
    cases kind with
    | any => cases isContribution
    | simple type => exact absurd isContribution (noBase type name)
    | complex id =>
        obtain rfl := Contribution.base.inj isContribution
        exact ⟨isBase, id, declares_of_resolveBase resolved⟩
  · rintro ⟨isBase, id, type, declared⟩
    refine ⟨name, isBase, ?_⟩
    rw [Globals.resolveBase, declared]
    rfl

/-- A part that contributes a field contributes no base. -/
theorem field_ne_base
    {field : Deferred (String × TypeRef)} :
    (do return Contribution.field (← field)) ≠ .ok (.base name) := by
  intro given
  obtain ⟨_, _, given⟩ := bind_eq_ok_iff.1 given
  cases given

theorem Item.IsBase.supported
    (isBase : item.IsBase name) :
    item.role ≠ .unsupported := by
  intro unsupported
  simpa [unsupported] using isBase.derives

/-- The base that a derivation names is the one that the outline looks for. -/
theorem Item.isBase_iff_baseAt
    (derives : item.role = .complexBase ∨ item.role = .simpleBase) :
    item.IsBase name ↔ baseAt item.spot = .ok name := by
  rw [baseAt_eq_ok_iff]
  exact ⟨Item.IsBase.named, fun named => ⟨derives, named⟩⟩

/-- A part of the content contributes a base if it is a derivation from a complex type. -/
theorem contribution_eq_base_iff :
    item.contribution environment package path = .ok (.base name) ↔
      item.IsBase name ∧ ∃ id, environment.globals.Declares id name := by
  unfold Item.contribution
  split
  next isGroup =>
    refine iff_of_false (fun given => ?_) fun given => by simpa [isGroup] using given.1.derives
    obtain ⟨_, _, given⟩ := bind_eq_ok_iff.1 given
    cases given
  next isParticle =>
    exact iff_of_false field_ne_base fun given => by simpa [isParticle] using given.1.derives
  next isAttribute =>
    refine iff_of_false ?_ fun given => by simpa [isAttribute] using given.1.derives
    split
    · exact nofun
    · exact field_ne_base
  next isComplex =>
    rw [baseContribution_eq_base_iff (by simp), Item.isBase_iff_baseAt (.inl isComplex)]
  next isSimple =>
    rw [baseContribution_eq_base_iff (by simp), Item.isBase_iff_baseAt (.inr isSimple)]
  next unsupported => exact iff_of_false nofun fun given => given.1.supported unsupported

theorem Portrait.mem_bases_of_add
    {contribution : Contribution}
    (added : portrait.add contribution = some after) :
    name ∈ after.bases ↔ name ∈ portrait.bases ∨ contribution = .base name := by
  cases contribution with
  | nothing =>
      obtain rfl := Option.some.inj added
      simp
  | field field =>
      rw [add] at added
      split at added
      · cases added
      · obtain rfl := Option.some.inj added
        simp
  | base other =>
      obtain rfl := Option.some.inj added
      rw [Contribution.base.injEq, eq_comm (a := other)]
      unfold withBase
      split
      next known => exact ⟨.inl, fun isBase => isBase.elim id (· ▸ known)⟩
      next => rw [List.mem_append, List.mem_singleton]

/-- A portrait has the bases that the parts of the content contribute. -/
theorem Portrait.mem_bases_of_foldlM
    {items : List Item}
    (taken : items.foldlM (Portrait.take environment package) portrait = some after) :
    name ∈ after.bases ↔ name ∈ portrait.bases ∨ ∃ item ∈ items,
      item.contribution environment package portrait.type.path = .ok (.base name) := by
  induction items generalizing portrait with
  | nil =>
      obtain rfl := Option.some.inj taken
      simp
  | cons item rest inductionHypothesis =>
      rw [List.foldlM_cons] at taken
      obtain ⟨middle, isMiddle, taken⟩ := Option.bind_eq_some_iff.1 taken
      obtain ⟨contribution, isContribution, added⟩ := take_eq_some_iff.1 isMiddle
      rw [inductionHypothesis taken, mem_bases_of_add added, type_of_take isMiddle, or_assoc,
        List.exists_mem_cons_iff, isContribution, Except.ok.injEq]

/-- The bases of a portrait are the complex types that the derivations in the content name. -/
theorem Portrait.mem_bases_iff
    {type : ComplexType}
    (isPortrait : type.portrait? environment package = some portrait) :
    name ∈ portrait.bases ↔ (∃ item, Mapped type.spot item ∧ item.IsBase name) ∧
      ∃ id, environment.globals.Declares id name := by
  rw [mem_bases_of_foldlM isPortrait]
  simp only [contribution_eq_base_iff, List.not_mem_nil, false_or]
  constructor
  · rintro ⟨item, member, isBase, declared⟩
    exact ⟨⟨item, (mem_contentItems_iff isBase.supported).1 member, isBase⟩, declared⟩
  · rintro ⟨⟨item, mapped, isBase⟩, declared⟩
    exact ⟨item, (mem_contentItems_iff isBase.supported).2 mapped, isBase, declared⟩

end Bases

/-! ## Supertypes of classes -/

section Supertypes

variable {options : BindingOptions} {document : Xml.Document} {portraits : List Portrait}
  {outline : Outline} {type base : ComplexType} {id other : ClassId}

/-- A complex type has one class. -/
theorem eq_of_complexTypes
    (isType : (complexTypes document)[id.index]? = some type)
    (isTypeToo : (complexTypes document)[other.index]? = some type) :
    id = other := by
  obtain ⟨bound, _⟩ := List.getElem?_eq_some_iff.1 isType
  exact ClassId.eq_of_index_eq <|
    (List.getElem?_inj bound (nodup_places document).of_map).1 (isType.trans isTypeToo.symm)

/-- The name of a complex type at the top is noted with the class for that type. -/
theorem Describes.declares_iff
    (describes : Describes options document portraits)
    {name : ExpandedName} :
    (environmentOf options document).globals.Declares id name ↔
      ∃ index spot, DeclaresName document "complexType" name index spot ∧
        (complexTypes document)[id.index]? = some (.top spot.tag [index] spot) := by
  have isTop : ∀ {index : Nat} {top : ComplexType}, (topTypes document)[index]? = some top →
      (complexTypes document)[index]? = some top := by
    intro index top found
    rw [complexTypes, List.getElem?_append_left (List.getElem?_eq_some_iff.1 found).1, found]
  constructor
  · rintro ⟨type, noted⟩
    obtain ⟨child, isChild, construct, rfl, _, found⟩ := complex_of_mem_types (mem_of_lookup noted)
    exact ⟨child.1, child.2, describes.registered.declaresName isChild construct (by simp),
      isTop found⟩
  · rintro ⟨index, spot, declares, found⟩
    have named : (settingOf options document).nameAt spot = name := nameAt_of_declaresName declares
    obtain ⟨noted, isNoted, sameType⟩ :=
      mem_types_of_complex (Spot.mem_children.2 declares.isChild) declares.construct
    rw [named] at isNoted
    obtain rfl := eq_of_complexTypes (isTop sameType) found
    exact ⟨_, lookup_of_mem describes.proper.types isNoted⟩

/-- The supertypes of a class are the classes for the complex types that its own is derived from. -/
theorem Describes.extends_iff
    (describes : Describes options document portraits)
    (depicts : Depicts options document outline portraits)
    (isType : (complexTypes document)[id.index]? = some type) :
    Extends outline.class? id other ↔
      ∃ base, DerivedFrom document type base ∧ (complexTypes document)[other.index]? = some base := by
  obtain ⟨portrait, isPortrait, rfl, described⟩ := describes.exists_portrait isType
  rw [Outline.extends_iff]
  constructor
  · intro isSupertype
    obtain ⟨name, member, declares⟩ :=
      exists_of_mem_of_forall₂ (depicts.supertypes isPortrait) isSupertype
    obtain ⟨⟨item, mapped, isBase⟩, _⟩ := (Portrait.mem_bases_iff described).1 member
    obtain ⟨index, spot, isDeclared, found⟩ := describes.declares_iff.1 declares
    exact ⟨_, .base mapped isBase isDeclared, found⟩
  · rintro ⟨_, ⟨mapped, isItemBase, declares⟩, found⟩
    have declared := describes.declares_iff.2 ⟨_, _, declares, found⟩
    have isBase := (Portrait.mem_bases_iff described).2 ⟨⟨_, mapped, isItemBase⟩, _, declared⟩
    obtain ⟨supertype, member, isNoted⟩ :=
      exists_of_mem_of_forall₂ (depicts.supertypes isPortrait).flip isBase
    obtain rfl := (distinct_registryOf.biUnique).1 isNoted declared
    exact member

/-- A complex type that another one is derived from has a class. -/
theorem DerivedFrom.exists_class
    (derived : DerivedFrom document type base) :
    ∃ other : ClassId, (complexTypes document)[other.index]? = some base := by
  obtain ⟨_, _, declares⟩ := derived
  have binds : Binds document _ := .complexType declares.isChild declares.construct
  obtain ⟨index, found⟩ := List.mem_iff_getElem?.1 (mem_complexTypes_iff.2 binds)
  exact ⟨⟨index⟩, found⟩

/-- Paths of supertypes are chains of derivations. -/
theorem Describes.path_iff
    (describes : Describes options document portraits)
    (depicts : Depicts options document outline portraits)
    (isType : (complexTypes document)[id.index]? = some type)
    (isBase : (complexTypes document)[other.index]? = some base) :
    ReflTransGen (Extends outline.class?) id other ↔
      ReflTransGen (DerivedFrom document) type base := by
  constructor
  · intro path
    have chain : ∃ last, (complexTypes document)[other.index]? = some last ∧
        ReflTransGen (DerivedFrom document) type last := by
      clear isBase
      induction path with
      | refl => exact ⟨type, isType, .refl⟩
      | tail _ extended inductionHypothesis =>
          obtain ⟨middle, isMiddle, chain⟩ := inductionHypothesis
          obtain ⟨last, derived, isLast⟩ := (describes.extends_iff depicts isMiddle).1 extended
          exact ⟨last, isLast, chain.tail derived⟩
    obtain ⟨last, isLast, chain⟩ := chain
    exact Option.some.inj (isLast.symm.trans isBase) ▸ chain
  · intro chain
    have path : ∃ last : ClassId, (complexTypes document)[last.index]? = some base ∧
        ReflTransGen (Extends outline.class?) id last := by
      clear isBase
      induction chain with
      | refl => exact ⟨id, isType, .refl⟩
      | tail _ derived inductionHypothesis =>
          obtain ⟨middle, isMiddle, path⟩ := inductionHypothesis
          obtain ⟨last, isLast⟩ := derived.exists_class
          exact ⟨last, isLast,
            path.tail ((describes.extends_iff depicts isMiddle).2 ⟨_, derived, isLast⟩)⟩
    obtain ⟨last, isLast, path⟩ := path
    exact eq_of_complexTypes isLast isBase ▸ path

/-- An outline lets the class for one complex type stand for that of another one exactly if a chain of
derivations leads from the first to the second, each from a complex type to the one at the top that
the base of an extension or restriction in its content names; or if the second has the object type.
Bases that are built in, that are simple types or that are not given lead nowhere. -/
theorem substitutions_of_derivations
    (accepted : (bindXml options document).1 = .ok outline) :
    ∃ types, Enumerates document types ∧ MadeFor outline types ∧
      ∀ {id other : ClassId} {derived base}, types[id.index]? = some derived →
        types[other.index]? = some base → ∃ actual declared,
          outline.typeOf? id = some actual ∧ outline.typeOf? other = some declared ∧
          (outline.isAncestor declared actual ↔
            ReflTransGen (DerivedFrom document) derived base ∨ declared = .object) := by
  obtain ⟨portraits, describes, depicts⟩ := depicts_of_accepted accepted
  refine ⟨complexTypes document, enumerates_complexTypes document,
    madeFor_complexTypes describes depicts, fun {id other derived base} isDerived isBase => ?_⟩
  obtain ⟨portrait, isPortrait, _⟩ := describes.exists_portrait isDerived
  obtain ⟨basePortrait, isBasePortrait, _⟩ := describes.exists_portrait isBase
  have typed := depicts.typed isPortrait
  have baseTyped := depicts.typed isBasePortrait
  refine ⟨_, _, typed, baseTyped, ?_⟩
  obtain ⟨found, isFound, _⟩ := depicts.found isPortrait
  have isClass := Outline.mem_classIds_of_class? isFound
  rw [depicts.formed.isAncestor_iff_path isClass typed baseTyped,
    describes.path_iff depicts isDerived isBase]

end Supertypes

/-- A schema with derivations by both kinds of content, from later declarations and from the type above
all others. -/
def fareSchema : Xml.Document where
  root := ⟨schemaName "schema", [⟨some "f", "urn:fare"⟩, ⟨some "xs", schemaNamespace⟩],
    [⟨⟨none, "targetNamespace"⟩, "urn:fare"⟩]⟩
  children := [
    schemaNode "element" [("name", "offer")] [
      schemaNode "complexType" [] [
        schemaNode "complexContent" [] [
          schemaNode "extension" [("base", "f:reduced")] [
            schemaNode "sequence" [] [
              schemaNode "element" [("name", "day")] [
                schemaNode "complexType" [] [
                  schemaNode "complexContent" [] [
                    schemaNode "restriction" [("base", "xs:anyType")] []]]]]]]]],
    schemaNode "complexType" [("name", "reduced")] [
      schemaNode "simpleContent" [] [schemaNode "restriction" [("base", "f:fare")] []]],
    schemaNode "complexType" [("name", "fare")] [
      schemaNode "simpleContent" [] [schemaNode "extension" [("base", "xs:anyType")] []]]]

/-- The outline of the schema. -/
def fareOutline : Outline where
  packages := ["fare"]
  classes := [⟨"Offer", ⟨0⟩, none, [⟨0⟩], [⟨1⟩], [⟨3⟩]⟩, ⟨"Reduced", ⟨0⟩, none, [], [⟨2⟩], []⟩,
    ⟨"Fare", ⟨0⟩, none, [], [], []⟩, ⟨"Day", ⟨0⟩, some ⟨0⟩, [], [], []⟩]
  fields := [⟨"day", .reference "fare" "Offer.Day", ⟨0⟩⟩]
  types := ["Offer", "Reduced", "Fare", "Offer.Day"].map (.reference "fare")

theorem fare_accepted : (bindXml {} fareSchema).1 = .ok fareOutline := by
  decide +kernel

theorem fare_substitutions :
    (bindXml {} fareSchema).1 = .ok fareOutline ∧ ∃ types offer fare day,
      Enumerates fareSchema types ∧ types[0]? = some offer ∧ types[2]? = some fare ∧
        types[3]? = some day ∧ ReflTransGen (DerivedFrom fareSchema) offer fare ∧
        ¬ReflTransGen (DerivedFrom fareSchema) day fare := by
  obtain ⟨types, enumerates, madeFor, substitutions⟩ := substitutions_of_derivations fare_accepted
  have length : types.length = 4 := madeFor.length.symm
  have isType : ∀ id : ClassId, id.index < 4 → ∃ type, types[id.index]? = some type :=
    fun id bound => ⟨_, List.getElem?_eq_getElem (length ▸ bound)⟩
  obtain ⟨offer, isOffer⟩ := isType ⟨0⟩ (by decide)
  obtain ⟨fare, isFare⟩ := isType ⟨2⟩ (by decide)
  obtain ⟨day, isDay⟩ := isType ⟨3⟩ (by decide)
  refine ⟨fare_accepted, types, offer, fare, day, enumerates, isOffer, isFare, isDay, ?_, ?_⟩
  · obtain ⟨_, _, typed, declared, permits⟩ := substitutions isOffer isFare
    cases typed
    cases declared
    exact (permits.1 (by cbv)).resolve_right (by decide)
  · obtain ⟨_, _, typed, declared, permits⟩ := substitutions isDay isFare
    cases typed
    cases declared
    exact fun chain => absurd (permits.2 (.inl chain)) (by cbv; exact Bool.false_ne_true)

end Schema
end SchemaBinding
