import SchemaBinding.Proofs.Reordering
import SchemaBinding.Proofs.SchemaClasses

/-!
# The order of declarations

The order in which a schema makes its declarations matters neither for whether it is accepted nor
for the classes of its outline: these have the same types, fields, supertypes and nested classes, and
only their numbers are different.
-/

namespace SchemaBinding

/-- A map between the classes of two outlines that are the same apart from the numbers of classes and
the order of those that are not nested. -/
structure Outline.Rearrangement (first second : Outline) (forward : ClassId → ClassId) : Prop where
  /-- The packages are the same. -/
  packages : second.packages = first.packages
  /-- Every class of each outline has one counterpart in the other. -/
  bijective : Set.BijOn forward {id | id ∈ first.classIds} {id | id ∈ second.classIds}
  /-- The counterpart of a class is the class of the same type. -/
  identified : ∀ id ∈ first.classIds, ∃ type, first.typeOf? id = some type ∧
    ∀ other, second.typeOf? other = some type ↔ other = forward id
  /-- Names are the same. -/
  name : ∀ id ∈ first.classIds,
    (second.class? (forward id)).map Class.name = (first.class? id).map Class.name
  /-- Enclosing classes are counterparts. -/
  enclosing : ∀ id ∈ first.classIds,
    second.enclosing? (forward id) = (first.enclosing? id).map forward
  /-- Fields have the same names and types in the same order. -/
  fields : ∀ id ∈ first.classIds, second.fieldList (forward id) = first.fieldList id
  /-- Supertypes are counterparts in the same order. -/
  supertypes : ∀ id ∈ first.classIds,
    second.supertypes (forward id) = (first.supertypes id).map forward
  /-- Nested classes are counterparts in the same order. -/
  nested : ∀ id ∈ first.classIds, second.nested (forward id) = (first.nested id).map forward

namespace Schema

open Xml (Spot)

/-! ## The order of nested classes -/

section Siblings

variable {document : Xml.Document} {first second around : ComplexType} {earlier later : Nat}

/-- A nested complex type is in the declaration at the top that the one around it is in. -/
theorem Binds.head?_place
    (binds : Binds document first)
    (isAround : first.around? = some around) :
    first.place.head? = around.place.head? := by
  cases binds with
  | complexType | element => cases isAround
  | @nested outer item inner spot outerBinds mapped isParticle noReference noType isFirst =>
      obtain rfl := Option.some.inj isAround
      obtain ⟨head, rest, place⟩ := List.exists_cons_of_ne_nil outerBinds.place_ne_nil
      show (outer.place ++ item.place ++ [inner]).head? = outer.place.head?
      rw [place]
      rfl

/-- Classes of nested complex types are numbered in document order. -/
theorem lt_iff_place_lt
    (isFirst : (complexTypes document)[earlier]? = some first)
    (isSecond : (complexTypes document)[later]? = some second)
    (firstNested : first.around?.isSome)
    (secondNested : second.around?.isSome) :
    earlier < later ↔ first.place < second.place := by
  have ordered : ∀ {left right : Nat} {leftType rightType : ComplexType},
      (complexTypes document)[left]? = some leftType →
        (complexTypes document)[right]? = some rightType → leftType.around?.isSome →
          left < right → leftType.place < rightType.place := by
    intro left right leftType rightType isLeft isRight nested before
    obtain ⟨_, rfl⟩ := List.getElem?_eq_some_iff.1 isLeft
    obtain ⟨_, rfl⟩ := List.getElem?_eq_some_iff.1 isRight
    rcases List.pairwise_iff_getElem.1 (complexTypes_sorted document) _ _ _ _ before with
      ⟨isTop, _⟩ | ⟨_, smaller⟩
    · rw [isTop] at nested
      cases nested
    · exact smaller
  constructor
  · exact ordered isFirst isSecond firstNested
  · intro smaller
    rcases Nat.lt_trichotomy earlier later with before | rfl | after
    · exact before
    · obtain rfl := Option.some.inj (isFirst.symm.trans isSecond)
      exact absurd smaller (List.lt_irrefl _)
    · exact absurd smaller (List.lt_asymm (ordered isSecond isFirst secondNested after))

/-- Classes nested in one class are numbered in the order of their places in the declaration at the
top. -/
theorem lt_iff_of_siblings
    (isFirst : (complexTypes document)[earlier]? = some first)
    (isSecond : (complexTypes document)[later]? = some second)
    (firstAround : first.around? = some around)
    (secondAround : second.around? = some around) :
    earlier < later ↔ first.detached.place < second.detached.place := by
  have firstBinds := mem_complexTypes_iff.1 (List.mem_of_getElem? isFirst)
  have secondBinds := mem_complexTypes_iff.1 (List.mem_of_getElem? isSecond)
  have sameHead := (firstBinds.head?_place firstAround).trans
    (secondBinds.head?_place secondAround).symm
  obtain ⟨head, rest, firstPlace⟩ := List.exists_cons_of_ne_nil firstBinds.place_ne_nil
  obtain ⟨otherHead, otherRest, secondPlace⟩ := List.exists_cons_of_ne_nil secondBinds.place_ne_nil
  rw [firstPlace, secondPlace, List.head?_cons, List.head?_cons, Option.some.injEq] at sameHead
  rw [lt_iff_place_lt isFirst isSecond (by rw [firstAround]; rfl) (by rw [secondAround]; rfl),
    ComplexType.place_detached, ComplexType.place_detached, firstPlace, secondPlace, sameHead,
    List.tail_cons, List.tail_cons, List.cons_lt_cons_iff]
  simp

end Siblings

/-! ## Two outlines of one schema -/

theorem MadeFor.exists_around
    {outline : Outline}
    {types : List ComplexType}
    (madeFor : MadeFor outline types)
    {id outer : ClassId}
    {type : ComplexType}
    (isType : types[id.index]? = some type)
    (enclosed : outline.enclosing? id = some outer) :
    ∃ around, types[outer.index]? = some around ∧ type.around? = some around := by
  have same := madeFor.enclosing isType
  rw [enclosed, Option.map_some, eq_comm, Option.map_eq_some_iff] at same
  obtain ⟨around, isAround, isOuter⟩ := same
  exact ⟨around, isOuter.symm, isAround⟩

/-- Two schemas with the same declarations, and their outlines as portraits depict them. -/
structure BothBound (options : BindingOptions) (first second : Xml.Document)
    (portraits others : List Portrait) (firstOutline secondOutline : Outline) : Prop where
  reordered : Reordered first second
  describesFirst : Describes options first portraits
  describesSecond : Describes options second others
  depictsFirst : Depicts options first firstOutline portraits
  depictsSecond : Depicts options second secondOutline others

theorem forall₂_of_common
    {Left Right Common : Type}
    {left : Left → Common → Prop}
    {right : Right → Common → Prop}
    {related : Left → Right → Prop}
    (relates : ∀ {leftItem rightItem common}, left leftItem common → right rightItem common →
      related leftItem rightItem)
    {leftItems : List Left}
    {rightItems : List Right}
    {commons : List Common}
    (isLeft : List.Forall₂ left leftItems commons)
    (isRight : List.Forall₂ right rightItems commons) :
    List.Forall₂ related leftItems rightItems := by
  induction isLeft generalizing rightItems with
  | nil =>
      cases isRight
      exact .nil
  | cons isFirst rest inductionHypothesis =>
      cases isRight with
      | cons isFirstToo restToo =>
          exact .cons (relates isFirst isFirstToo) (inductionHypothesis restToo)

namespace BothBound

variable {options : BindingOptions} {first second : Xml.Document}
  {portraits others : List Portrait} {firstOutline secondOutline : Outline} {id other : ClassId}

theorem symm
    (bound : BothBound options first second portraits others firstOutline secondOutline) :
    BothBound options second first others portraits secondOutline firstOutline :=
  ⟨bound.reordered.symm, bound.describesSecond, bound.describesFirst, bound.depictsSecond,
    bound.depictsFirst⟩

/-! ## Classes for the same complex type -/

/-- Corresponding classes have the same type. -/
theorem exists_type
    (bound : BothBound options first second portraits others firstOutline secondOutline)
    (corresponds : Corresponds first second id other) :
    ∃ type, firstOutline.typeOf? id = some type ∧ secondOutline.typeOf? other = some type := by
  obtain ⟨portrait, image, isPortrait, isOther, alike⟩ :=
    corresponds.exists_portrait bound.reordered bound.describesFirst bound.describesSecond
  have samePath : image.path = portrait.type.path := by simpa using congrArg ComplexType.path alike
  refine ⟨_, bound.depictsFirst.typed isPortrait, ?_⟩
  rw [bound.depictsSecond.typed isOther, bound.reordered.settingOf_eq]
  exact congrArg (fun path => some (TypeRef.reference _ path)) samePath

theorem name_eq
    (bound : BothBound options first second portraits others firstOutline secondOutline)
    (corresponds : Corresponds first second id other) :
    (secondOutline.class? other).map Class.name = (firstOutline.class? id).map Class.name := by
  obtain ⟨portrait, image, isPortrait, isOther, alike⟩ :=
    corresponds.exists_portrait bound.reordered bound.describesFirst bound.describesSecond
  obtain ⟨found, isFound, foundName, _⟩ := bound.depictsFirst.found isPortrait
  obtain ⟨otherFound, isOtherFound, otherName, _⟩ := bound.depictsSecond.found isOther
  have sameNamed : image.named = portrait.type.named := by
    simpa using congrArg ComplexType.named alike
  rw [isFound, isOtherFound, Option.map_some, Option.map_some, foundName, otherName]
  exact congrArg (fun tag => some (className (nameOf tag))) sameNamed

theorem fieldList_eq
    (bound : BothBound options first second portraits others firstOutline secondOutline)
    (corresponds : Corresponds first second id other) :
    secondOutline.fieldList other = firstOutline.fieldList id := by
  obtain ⟨portrait, image, isPortrait, isOther, _⟩ :=
    corresponds.exists_portrait bound.reordered bound.describesFirst bound.describesSecond
  rw [bound.depictsFirst.fields isPortrait, bound.depictsSecond.fields isOther]
  exact portrait.fields_retyped

/-- Supertypes are for the same complex types. -/
theorem supertypes_correspond
    (bound : BothBound options first second portraits others firstOutline secondOutline)
    (corresponds : Corresponds first second id other) :
    List.Forall₂ (Corresponds first second) (firstOutline.supertypes id)
      (secondOutline.supertypes other) := by
  obtain ⟨portrait, image, isPortrait, isOther, _⟩ :=
    corresponds.exists_portrait bound.reordered bound.describesFirst bound.describesSecond
  have otherBases := bound.depictsSecond.supertypes isOther
  rw [Portrait.bases_retyped] at otherBases
  refine forall₂_of_common ?_ (bound.depictsFirst.supertypes isPortrait) otherBases
  intro supertype otherSupertype base declares declaresToo
  obtain ⟨found, isFound, corresponds⟩ :=
    bound.reordered.exists_declares bound.describesSecond declares
  have distinct : (environmentOf options second).globals.Distinct := distinct_registryOf
  obtain rfl := distinct.biUnique.1 isFound declaresToo
  exact corresponds

/-- The class around a nested one is for the same complex type. -/
theorem enclosing_corresponds
    (bound : BothBound options first second portraits others firstOutline secondOutline)
    (corresponds : Corresponds first second id other) :
    Option.Rel (Corresponds first second) (firstOutline.enclosing? id)
      (secondOutline.enclosing? other) := by
  obtain ⟨type, image, isType, isImage, alike⟩ := corresponds
  have around := (madeFor_complexTypes bound.describesFirst bound.depictsFirst).enclosing isType
  have otherAround :=
    (madeFor_complexTypes bound.describesSecond bound.depictsSecond).enclosing isImage
  have sameAround : image.around?.map ComplexType.detached =
      type.around?.map ComplexType.detached := by
    simpa using congrArg ComplexType.around? alike
  cases isAround : type.around? with
  | none =>
      rw [isAround, Option.map_none, Option.map_eq_none_iff] at sameAround around
      rw [sameAround, Option.map_none, Option.map_eq_none_iff] at otherAround
      rw [around, otherAround]
      exact .none
  | some outer =>
      rw [isAround, Option.map_some, Option.map_eq_some_iff] at sameAround around
      obtain ⟨otherOuter, isOtherAround, alikeAround⟩ := sameAround
      rw [isOtherAround, Option.map_some, Option.map_eq_some_iff] at otherAround
      obtain ⟨outerId, enclosed, isOuter⟩ := around
      obtain ⟨otherId, otherEnclosed, isOtherOuter⟩ := otherAround
      rw [enclosed, otherEnclosed]
      exact .some ⟨outer, otherOuter, isOuter, isOtherOuter, alikeAround⟩

/-- A class corresponds to one class only. -/
theorem unique
    (bound : BothBound options first second portraits others firstOutline secondOutline)
    {another : ClassId}
    (corresponds : Corresponds first second id other)
    (correspondsToo : Corresponds first second id another) :
    other = another := by
  obtain ⟨type, isType, otherTyped⟩ := bound.exists_type corresponds
  obtain ⟨same, isSame, anotherTyped⟩ := bound.exists_type correspondsToo
  obtain rfl := Option.some.inj (isType.symm.trans isSame)
  exact bound.depictsSecond.formed.distinct otherTyped anotherTyped

theorem mem_classIds_iff
    (bound : BothBound options first second portraits others firstOutline secondOutline) :
    id ∈ firstOutline.classIds ↔ id.index < (complexTypes first).length := by
  rw [Outline.mem_classIds, bound.depictsFirst.length, bound.describesFirst.length_eq]

theorem exists_corresponding
    (bound : BothBound options first second portraits others firstOutline secondOutline)
    (isClass : id ∈ firstOutline.classIds) :
    ∃ other, Corresponds first second id other :=
  bound.reordered.exists_corresponds (bound.mem_classIds_iff.1 isClass)

theorem mem_classIds
    (bound : BothBound options first second portraits others firstOutline secondOutline)
    (corresponds : Corresponds first second id other) :
    id ∈ firstOutline.classIds := by
  obtain ⟨_, _, isType, _⟩ := corresponds
  exact bound.mem_classIds_iff.2 (List.getElem?_eq_some_iff.1 isType).1

theorem exists_enclosing
    (bound : BothBound options first second portraits others firstOutline secondOutline)
    (corresponds : Corresponds first second id other)
    {outer : ClassId}
    (enclosed : firstOutline.enclosing? id = some outer) :
    ∃ otherOuter, secondOutline.enclosing? other = some otherOuter ∧
      Corresponds first second outer otherOuter := by
  have related := bound.enclosing_corresponds corresponds
  rw [enclosed] at related
  cases otherEnclosed : secondOutline.enclosing? other with
  | none =>
      rw [otherEnclosed] at related
      cases related
  | some otherOuter =>
      rw [otherEnclosed] at related
      cases related with
      | some correspondsToo => exact ⟨otherOuter, rfl, correspondsToo⟩

/-- Classes nested in one class are in the same order in both outlines. -/
theorem index_lt
    (bound : BothBound options first second portraits others firstOutline secondOutline)
    {later otherLater outer : ClassId}
    (corresponds : Corresponds first second id other)
    (correspondsToo : Corresponds first second later otherLater)
    (enclosed : firstOutline.enclosing? id = some outer)
    (laterEnclosed : firstOutline.enclosing? later = some outer)
    (before : id.index < later.index) :
    other.index < otherLater.index := by
  obtain ⟨otherOuter, otherEnclosed, outerCorresponds⟩ := bound.exists_enclosing corresponds enclosed
  obtain ⟨sameOuter, otherLaterEnclosed, sameCorresponds⟩ :=
    bound.exists_enclosing correspondsToo laterEnclosed
  obtain rfl := bound.unique outerCorresponds sameCorresponds
  have madeFor := madeFor_complexTypes bound.describesFirst bound.depictsFirst
  have madeForToo := madeFor_complexTypes bound.describesSecond bound.depictsSecond
  obtain ⟨type, image, isType, isImage, alike⟩ := corresponds
  obtain ⟨laterType, laterImage, isLaterType, isLaterImage, laterAlike⟩ := correspondsToo
  obtain ⟨around, isAround, typeAround⟩ := madeFor.exists_around isType enclosed
  obtain ⟨_, isSame, laterAround⟩ := madeFor.exists_around isLaterType laterEnclosed
  obtain rfl := Option.some.inj (isAround.symm.trans isSame)
  obtain ⟨otherAround, isOtherAround, imageAround⟩ := madeForToo.exists_around isImage otherEnclosed
  obtain ⟨_, isOtherSame, laterImageAround⟩ :=
    madeForToo.exists_around isLaterImage otherLaterEnclosed
  obtain rfl := Option.some.inj (isOtherAround.symm.trans isOtherSame)
  -- The places of siblings begin alike in each document; what follows is the same in both.
  rw [lt_iff_of_siblings isImage isLaterImage imageAround laterImageAround, alike, laterAlike]
  exact (lt_iff_of_siblings isType isLaterType typeAround laterAround).1 before

/-- Every class corresponds to exactly one class of the other outline. -/
theorem exists_forward
    (bound : BothBound options first second portraits others firstOutline secondOutline) :
    ∃ forward : ClassId → ClassId,
      (∀ id ∈ firstOutline.classIds, Corresponds first second id (forward id)) ∧
      (∀ {id other}, Corresponds first second id other → forward id = other) ∧
      Set.BijOn forward {id | id ∈ firstOutline.classIds} {id | id ∈ secondOutline.classIds} := by
  have each : ∀ id, ∃ other, id ∈ firstOutline.classIds → Corresponds first second id other := by
    intro id
    by_cases isClass : id ∈ firstOutline.classIds
    · obtain ⟨other, corresponds⟩ := bound.exists_corresponding isClass
      exact ⟨other, fun _ => corresponds⟩
    -- Where there is no class, the map may be anything.
    · exact ⟨id, fun isClassToo => absurd isClassToo isClass⟩
  choose forward corresponds using each
  have forward_eq : ∀ {id other}, Corresponds first second id other → forward id = other :=
    fun correspondsToo =>
      bound.unique (corresponds _ (bound.mem_classIds correspondsToo)) correspondsToo
  refine ⟨forward, corresponds, forward_eq, ?mapsTo, ?injective, ?surjective⟩
  case mapsTo => exact fun id isClass => bound.symm.mem_classIds (corresponds id isClass).symm
  case injective =>
    intro left leftIsClass right rightIsClass same
    have leftCorresponds := (corresponds left leftIsClass).symm
    rw [same] at leftCorresponds
    exact bound.symm.unique leftCorresponds (corresponds right rightIsClass).symm
  case surjective =>
    intro other isClass
    obtain ⟨id, correspondsToo⟩ := bound.symm.exists_corresponding isClass
    exact ⟨id, bound.mem_classIds correspondsToo.symm, forward_eq correspondsToo.symm⟩

/-- The outlines are the same apart from numbers and the order of classes that are not nested. -/
theorem exists_rearrangement
    (bound : BothBound options first second portraits others firstOutline secondOutline) :
    ∃ forward, firstOutline.Rearrangement secondOutline forward := by
  obtain ⟨forward, corresponds, forward_eq, bijective⟩ := bound.exists_forward
  have enclosing : ∀ id ∈ firstOutline.classIds,
      secondOutline.enclosing? (forward id) = (firstOutline.enclosing? id).map forward := by
    intro id isClass
    have related := bound.enclosing_corresponds (corresponds id isClass)
    generalize firstOutline.enclosing? id = around at related
    generalize secondOutline.enclosing? (forward id) = otherAround at related
    cases related with
    | none => rfl
    | some correspondsToo => rw [Option.map_some, forward_eq correspondsToo]
  refine ⟨forward, ?packages, bijective, ?identified, ?name, enclosing, ?fields, ?supertypes,
    ?nested⟩
  case packages =>
    rw [bound.depictsFirst.packages, bound.depictsSecond.packages, bound.reordered.settingOf_eq]
  case identified =>
    intro id isClass
    obtain ⟨type, typed, otherTyped⟩ := bound.exists_type (corresponds id isClass)
    refine ⟨type, typed, fun other => ⟨fun anotherTyped => ?_, fun same => same ▸ otherTyped⟩⟩
    exact bound.depictsSecond.formed.distinct anotherTyped otherTyped
  case name => exact fun id isClass => bound.name_eq (corresponds id isClass)
  case fields => exact fun id isClass => bound.fieldList_eq (corresponds id isClass)
  case supertypes =>
    intro id isClass
    have related := (bound.supertypes_correspond (corresponds id isClass)).imp
      fun _ _ correspondsToo => forward_eq correspondsToo
    rw [← List.forall₂_map_left_iff, List.forall₂_eq_eq_eq] at related
    exact related.symm
  case nested =>
    intro outer isClass
    apply Outline.nested_eq_map bound.depictsFirst.formed bound.depictsSecond.formed bijective
      enclosing _ isClass
    intro earlier later enclosed laterEnclosed before
    exact bound.index_lt
      (corresponds earlier (Outline.mem_classIds_of_enclosing? enclosed))
      (corresponds later (Outline.mem_classIds_of_enclosing? laterEnclosed))
      enclosed laterEnclosed before

end BothBound

/-- Schemas that make the same declarations in different orders are either all accepted or all
refused, and the outlines of accepted ones have the same classes: corresponding ones have the same
type, and the same fields, supertypes and nested classes in the same order. -/
theorem rearrangement_of_reordered
    {options : BindingOptions}
    {first second : Xml.Document}
    (reordered : Reordered first second) :
    ((∃ outline, (bindXml options first).1 = .ok outline) ↔
      ∃ outline, (bindXml options second).1 = .ok outline) ∧
    ∀ {firstOutline secondOutline}, (bindXml options first).1 = .ok firstOutline →
      (bindXml options second).1 = .ok secondOutline →
        ∃ forward, firstOutline.Rearrangement secondOutline forward := by
  refine ⟨⟨reordered.accepted, reordered.symm.accepted⟩, ?_⟩
  intro firstOutline secondOutline firstAccepted secondAccepted
  obtain ⟨portraits, describesFirst, depictsFirst⟩ := depicts_of_accepted firstAccepted
  obtain ⟨others, describesSecond, depictsSecond⟩ := depicts_of_accepted secondAccepted
  exact BothBound.exists_rearrangement
    ⟨reordered, describesFirst, describesSecond, depictsFirst, depictsSecond⟩

/-- The schema with its declarations the other way round. -/
def turnedSupply : Xml.Document :=
  { supplySchema with children := supplySchema.children.reverse }

/-- The outline of the schema with its declarations the other way round. -/
def turnedOutline : Outline where
  packages := ["supply"]
  classes := [⟨"Order", ⟨0⟩, none, [⟨0⟩, ⟨1⟩], [], [⟨3⟩]⟩, ⟨"Note", ⟨0⟩, none, [⟨2⟩, ⟨3⟩], [], []⟩,
    ⟨"Rush", ⟨0⟩, none, [⟨5⟩, ⟨6⟩], [⟨0⟩], [⟨4⟩]⟩, ⟨"Line", ⟨0⟩, some ⟨0⟩, [], [], []⟩,
    ⟨"Stop", ⟨0⟩, some ⟨2⟩, [⟨4⟩], [], []⟩]
  fields := [⟨"line", .listOf (.reference "supply" "Order.Line"), ⟨0⟩⟩,
    ⟨"note", .reference "supply" "Note", ⟨0⟩⟩, ⟨"text", .object, ⟨1⟩⟩, ⟨"lang", .string, ⟨1⟩⟩,
    ⟨"lang", .string, ⟨4⟩⟩, ⟨"stop", .listOf (.reference "supply" "Rush.Stop"), ⟨2⟩⟩,
    ⟨"note", .listOf (.reference "supply" "Note"), ⟨2⟩⟩]
  types := ["Order", "Note", "Rush", "Order.Line", "Rush.Stop"].map (.reference "supply")

theorem turnedSupply_accepted : (bindXml {} turnedSupply).1 = .ok turnedOutline := by
  decide +kernel

theorem supply_rearrangement :
    Reordered supplySchema turnedSupply ∧ (bindXml {} supplySchema).1 = .ok supplyOutline ∧
      (bindXml {} turnedSupply).1 = .ok turnedOutline ∧
      ∃ forward, supplyOutline.Rearrangement turnedOutline forward := by
  have reordered : Reordered supplySchema turnedSupply := ⟨rfl, List.reverse_perm _⟩
  exact ⟨reordered, supply_accepted, turnedSupply_accepted,
    (rearrangement_of_reordered reordered).2 supply_accepted turnedSupply_accepted⟩

end Schema
end SchemaBinding
