import SchemaBinding.Proofs.Renumbering

/-!
# Counterparts

The blocks of an outline say where each class is: at the top of a package or inside another class,
and among which others.  Outlines with the same blocks therefore have the same classes, each at the
same place, and are renumberings of one another if what is shown of a class tells its fields and
supertypes.
-/

namespace SchemaBinding
namespace Outline

variable {first second : Outline} {options : SignatureOptions} {package : String}

/-! ## What a class tree shows -/

theorem classTree_name
    (outline : Outline)
    (depth : Nat)
    (id : ClassId) :
    (outline.classTree options package depth id).name = (outline.class? id).elim "" Class.name := by
  unfold classTree
  rfl

theorem classTree_supertypes
    (outline : Outline)
    (depth : Nat)
    (id : ClassId) :
    (outline.classTree options package depth id).supertypes =
      ((outline.supertypes id).filterMap outline.typeOf?).map (displaySupertype options package) := by
  unfold classTree
  rfl

theorem classTree_fields
    (outline : Outline)
    (depth : Nat)
    (id : ClassId) :
    (outline.classTree options package depth id).fields =
      (outline.fieldList id).map fun field => (displayType options field.2, field.1) := by
  unfold classTree
  rw [fieldList, List.map_map]
  rfl

theorem classTree_nested
    (outline : Outline)
    (depth : Nat)
    (id : ClassId) :
    (outline.classTree options package (depth + 1) id).nested =
      (outline.nested id).map (outline.classTree options package depth) := by
  rw [classTree]

/-! ## Classes at the same place -/

/-- Classes of two outlines that are shown alike, as are the classes around them.  The number is
that of the classes around each. -/
inductive Counterparts (first second : Outline) (options : SignatureOptions) (package : String) :
    Nat → ClassId → ClassId → Prop
  /-- Classes at the top of the package. -/
  | outermost {id image : ClassId} (isTop : id ∈ first.topLevelOf package)
      (imageIsTop : image ∈ second.topLevelOf package)
      (shown : first.classTree options package first.classes.length id =
        second.classTree options package second.classes.length image) :
      Counterparts first second options package 0 id image
  /-- Classes inside counterparts. -/
  | inside {depth : Nat} {outer id outerImage image : ClassId}
      (outside : Counterparts first second options package depth outer outerImage)
      (isNested : id ∈ first.nested outer) (imageIsNested : image ∈ second.nested outerImage)
      (shown : first.classTree options package (first.classes.length - (depth + 1)) id =
        second.classTree options package (second.classes.length - (depth + 1)) image) :
      Counterparts first second options package (depth + 1) id image

namespace Counterparts

variable {depth : Nat} {id image : ClassId}

theorem symm
    (counterparts : Counterparts first second options package depth id image) :
    Counterparts second first options package depth image id := by
  induction counterparts with
  | outermost isTop imageIsTop shown => exact .outermost imageIsTop isTop shown.symm
  | inside outside isNested imageIsNested shown inductionHypothesis =>
      exact .inside inductionHypothesis imageIsNested isNested shown.symm

theorem shown
    (counterparts : Counterparts first second options package depth id image) :
    first.classTree options package (first.classes.length - depth) id =
      second.classTree options package (second.classes.length - depth) image := by
  cases counterparts with
  | outermost isTop imageIsTop shown => exact shown
  | inside outside isNested imageIsNested shown => exact shown

theorem isClass
    (counterparts : Counterparts first second options package depth id image)
    (formed : first.WellFormed) :
    id ∈ first.classIds := by
  cases counterparts with
  | outermost isTop => exact (mem_topLevel.1 (mem_topLevelOf.1 isTop).1).1
  | inside outside isNested => exact mem_classIds_of_enclosing? (formed.mem_nested.1 isNested)

theorem packaged
    (counterparts : Counterparts first second options package depth id image)
    (formed : first.WellFormed) :
    first.packageNameOf? id = some package := by
  induction counterparts with
  | outermost isTop => exact (mem_topLevelOf.1 isTop).2
  | inside outside isNested imageIsNested shown inductionHypothesis =>
      rw [formed.keepsPackage (formed.mem_nested.1 isNested)]
      exact inductionHypothesis

theorem around
    (counterparts : Counterparts first second options package depth id image)
    (formed : first.WellFormed) :
    ∃ rest, Around first.class? id rest ∧ rest.length = depth := by
  induction counterparts with
  | outermost isTop =>
      exact ⟨[], .outermost (mem_topLevel.1 (mem_topLevelOf.1 isTop).1).2, rfl⟩
  | @inside depth outer id outerImage image outside isNested imageIsNested shown
      inductionHypothesis =>
      obtain ⟨rest, around, count⟩ := inductionHypothesis
      exact ⟨outer :: rest, .inside (formed.mem_nested.1 isNested) around, by
        rw [List.length_cons, count]⟩

/-- The depth to which classes are shown reaches further than the classes around them. -/
theorem depth_lt
    (counterparts : Counterparts first second options package depth id image)
    (formed : first.WellFormed) :
    depth < first.classes.length := by
  obtain ⟨rest, around, count⟩ := counterparts.around formed
  rw [← count]
  exact formed.length_around_lt (counterparts.isClass formed) around

variable (firstFormed : first.WellFormed) (secondFormed : second.WellFormed)

include firstFormed secondFormed

theorem nested_shown
    (counterparts : Counterparts first second options package depth id image) :
    (first.nested id).map
        (first.classTree options package (first.classes.length - (depth + 1))) =
      (second.nested image).map
        (second.classTree options package (second.classes.length - (depth + 1))) := by
  have firstBound := counterparts.depth_lt firstFormed
  have secondBound := counterparts.symm.depth_lt secondFormed
  have firstDepth : first.classes.length - depth = first.classes.length - (depth + 1) + 1 := by
    omega
  have secondDepth : second.classes.length - depth = second.classes.length - (depth + 1) + 1 := by
    omega
  have shown := counterparts.shown
  rw [firstDepth, secondDepth] at shown
  have nested := congrArg ClassTree.nested shown
  rw [classTree_nested, classTree_nested] at nested
  exact nested

theorem sameName
    (counterparts : Counterparts first second options package depth id image) :
    ∃ found other, first.class? id = some found ∧ second.class? image = some other ∧
      found.name = other.name := by
  have defined : ∀ {outline : Outline}, outline.WellFormed → ∀ id ∈ outline.classIds,
      ∃ found, outline.class? id = some found := by
    intro outline formed id isClass
    obtain ⟨_, _, _, named, _⟩ := formed.typed id isClass
    exact named.defined
  obtain ⟨found, isFound⟩ := defined firstFormed id (counterparts.isClass firstFormed)
  obtain ⟨other, otherFound⟩ := defined secondFormed image (counterparts.symm.isClass secondFormed)
  have names := congrArg ClassTree.name counterparts.shown
  rw [classTree_name, classTree_name, isFound, otherFound] at names
  exact ⟨found, other, isFound, otherFound, names⟩

/-- Counterparts have the same name through the classes around them. -/
theorem dottedName
    (counterparts : Counterparts first second options package depth id image) :
    ∃ name, DottedName first.class? id name ∧ DottedName second.class? image name := by
  have enclosing : ∀ {outline : Outline} {id found}, outline.class? id = some found →
      outline.enclosing? id = found.enclosing := by
    intro outline id found isFound
    rw [enclosing?, isFound, Option.bind_some]
  obtain ⟨found, other, isFound, otherFound, sameName⟩ :=
    counterparts.sameName firstFormed secondFormed
  induction counterparts generalizing found other with
  | outermost isTop imageIsTop =>
      have top := (mem_topLevel.1 (mem_topLevelOf.1 isTop).1).2
      have otherTop := (mem_topLevel.1 (mem_topLevelOf.1 imageIsTop).1).2
      rw [enclosing isFound] at top
      rw [enclosing otherFound] at otherTop
      exact ⟨found.name, .outermost isFound top, sameName ▸ .outermost otherFound otherTop⟩
  | inside outside isNested imageIsNested shown inductionHypothesis =>
      have inside := firstFormed.mem_nested.1 isNested
      have otherInside := secondFormed.mem_nested.1 imageIsNested
      rw [enclosing isFound] at inside
      rw [enclosing otherFound] at otherInside
      obtain ⟨outerFound, outerOther, isOuter, otherOuter, sameOuter⟩ :=
        outside.sameName firstFormed secondFormed
      obtain ⟨name, named, otherNamed⟩ :=
        inductionHypothesis outerFound outerOther isOuter otherOuter sameOuter
      exact ⟨name ++ "." ++ found.name, .inside isFound inside named,
        sameName ▸ .inside otherFound otherInside otherNamed⟩

/-- Counterparts have the same type. -/
theorem typeOf?_eq
    (counterparts : Counterparts first second options package depth id image) :
    second.typeOf? image = first.typeOf? id := by
  obtain ⟨name, named, otherNamed⟩ := counterparts.dottedName firstFormed secondFormed
  have typed : ∀ {outline : Outline}, outline.WellFormed → ∀ {id}, id ∈ outline.classIds →
      outline.packageNameOf? id = some package → DottedName outline.class? id name →
        outline.typeOf? id = some (.reference package name) := by
    intro outline formed id isClass packaged named
    obtain ⟨otherPackage, otherName, otherPackaged, otherNamed, typed⟩ := formed.typed id isClass
    rw [otherPackaged, Option.some.injEq] at packaged
    rw [typed, packaged, otherNamed.unique named]
  rw [typed secondFormed (counterparts.symm.isClass secondFormed)
      (counterparts.symm.packaged secondFormed) otherNamed,
    typed firstFormed (counterparts.isClass firstFormed) (counterparts.packaged firstFormed) named]

/-- A class has one counterpart only, for no two classes have the same type. -/
theorem unique
    {otherPackage : String}
    {otherDepth : Nat}
    {otherImage : ClassId}
    (counterparts : Counterparts first second options package depth id image)
    (others : Counterparts first second options otherPackage otherDepth id otherImage) :
    image = otherImage := by
  obtain ⟨_, _, _, _, typed⟩ := firstFormed.typed id (counterparts.isClass firstFormed)
  apply secondFormed.distinct
  · rw [counterparts.typeOf?_eq firstFormed secondFormed]
    exact typed
  · rw [others.typeOf?_eq firstFormed secondFormed]
    exact typed

end Counterparts

/-! ## Outlines with the same blocks -/

section Lists

variable {Item Image Shown : Type} {left : Item → Shown} {right : Image → Shown}
  {items : List Item} {images : List Image}

theorem exists_of_map_eq
    (same : items.map left = images.map right)
    {item : Item}
    (member : item ∈ items) :
    ∃ image ∈ images, left item = right image := by
  have isShown : left item ∈ images.map right := same ▸ List.mem_map_of_mem member
  obtain ⟨image, isImage, shown⟩ := List.mem_map.1 isShown
  exact ⟨image, isImage, shown.symm⟩

/-- Lists that are shown alike are images of one another if what is shown determines the image. -/
theorem eq_map_of_map_eq
    {forward : Item → Image}
    (same : items.map left = images.map right)
    (determined : ∀ item ∈ items, ∀ image ∈ images,
      left item = right image → image = forward item) :
    images = items.map forward := by
  induction items generalizing images with
  | nil => exact List.map_eq_nil_iff.1 same.symm
  | cons item items inductionHypothesis =>
      cases images with
      | nil => cases same
      | cons image images =>
          rw [List.map_cons, List.map_cons, List.cons.injEq] at same
          rw [List.map_cons, determined item List.mem_cons_self image List.mem_cons_self same.1]
          congr 1
          apply inductionHypothesis same.2
          intro other otherMember otherImage otherIsImage
          exact determined other (List.mem_cons_of_mem _ otherMember) otherImage
            (List.mem_cons_of_mem _ otherIsImage)

/-- A map between lists in the order of creation keeps that order. -/
theorem index_lt_of_sorted
    {ids : List ClassId}
    {forward : ClassId → ClassId}
    (sorted : ids.Pairwise fun earlier later => earlier.index < later.index)
    (imageSorted : (ids.map forward).Pairwise fun earlier later => earlier.index < later.index)
    {earlier later : ClassId}
    (earlierMember : earlier ∈ ids)
    (laterMember : later ∈ ids)
    (before : earlier.index < later.index) :
    (forward earlier).index < (forward later).index := by
  induction ids with
  | nil => cases earlierMember
  | cons id ids inductionHypothesis =>
      rw [List.pairwise_cons] at sorted
      rw [List.map_cons, List.pairwise_cons, List.forall_mem_map] at imageSorted
      rcases List.mem_cons.1 laterMember with rfl | laterIn
      · rcases List.mem_cons.1 earlierMember with rfl | earlierIn
        · omega
        · have after := sorted.1 earlier earlierIn
          omega
      · rcases List.mem_cons.1 earlierMember with rfl | earlierIn
        · exact imageSorted.1 later laterIn
        · exact inductionHypothesis sorted.2 imageSorted.2 earlierIn laterIn

end Lists

theorem packageNames_eq_of_packageBlocks_eq
    (sameBlocks : first.packageBlocks options = second.packageBlocks options) :
    first.packageNames = second.packageNames := by
  have names : ∀ outline : Outline,
      (outline.packageBlocks options).map PackageBlock.name = outline.packageNames := by
    intro outline
    rw [packageBlocks, List.map_map]
    exact List.map_id _
  rw [← names, ← names, sameBlocks]

/-- The classes at the top of each package are shown alike. -/
theorem topLevelOf_shown
    (sameBlocks : first.packageBlocks options = second.packageBlocks options)
    (isName : package ∈ first.packageNames) :
    (first.topLevelOf package).map
        (first.classTree options package first.classes.length) =
      (second.topLevelOf package).map
        (second.classTree options package second.classes.length) := by
  have blocks := sameBlocks
  rw [packageBlocks, packageBlocks, ← packageNames_eq_of_packageBlocks_eq sameBlocks] at blocks
  exact congrArg PackageBlock.classes (List.map_inj_left.1 blocks package isName)

theorem exists_counterpart
    (firstFormed : first.WellFormed)
    (secondFormed : second.WellFormed)
    (sameBlocks : first.packageBlocks options = second.packageBlocks options)
    {id : ClassId}
    {rest : List ClassId}
    (isClass : id ∈ first.classIds)
    (packaged : first.packageNameOf? id = some package)
    (around : Around first.class? id rest) :
    ∃ image, Counterparts first second options package rest.length id image := by
  induction around with
  | @outermost id top =>
      have isTop := mem_topLevel.2 ⟨isClass, top⟩
      have isTopOf := mem_topLevelOf.2 ⟨isTop, packaged⟩
      have shown := topLevelOf_shown sameBlocks (mem_packageNames.2 ⟨id, isTop, packaged⟩)
      obtain ⟨image, imageIsTop, imageShown⟩ := exists_of_map_eq shown isTopOf
      exact ⟨image, .outermost isTopOf imageIsTop imageShown⟩
  | @inside id outer rest enclosed around inductionHypothesis =>
      obtain ⟨outerImage, outside⟩ := inductionHypothesis (firstFormed.enclosing_mem enclosed)
        ((firstFormed.keepsPackage enclosed).symm.trans packaged)
      have isNested := firstFormed.mem_nested.2 enclosed
      have shown := outside.nested_shown firstFormed secondFormed
      obtain ⟨image, imageIsNested, imageShown⟩ := exists_of_map_eq shown isNested
      exact ⟨image, .inside outside isNested imageIsNested imageShown⟩

/-- Whether a map takes every class of an outline to a counterpart. -/
def KeepsPlaces (first second : Outline) (options : SignatureOptions)
    (forward : ClassId → ClassId) : Prop :=
  ∀ id ∈ first.classIds, ∃ package depth,
    Counterparts first second options package depth id (forward id)

theorem exists_keepsPlaces
    (firstFormed : first.WellFormed)
    (secondFormed : second.WellFormed)
    (sameBlocks : first.packageBlocks options = second.packageBlocks options) :
    ∃ forward, KeepsPlaces first second options forward := by
  have counterpart : ∀ id, ∃ image, id ∈ first.classIds → ∃ package depth,
      Counterparts first second options package depth id image := by
    intro id
    by_cases isClass : id ∈ first.classIds
    · obtain ⟨package, name, packaged, named, _⟩ := firstFormed.typed id isClass
      obtain ⟨rest, around⟩ := named.reachesTop
      obtain ⟨image, counterparts⟩ :=
        exists_counterpart firstFormed secondFormed sameBlocks isClass packaged around
      exact ⟨image, fun _ => ⟨package, rest.length, counterparts⟩⟩
    · exact ⟨id, fun member => absurd member isClass⟩
  choose forward isCounterpart using counterpart
  exact ⟨forward, isCounterpart⟩

namespace KeepsPlaces

variable {forward : ClassId → ClassId} (keepsPlaces : KeepsPlaces first second options forward)
  (firstFormed : first.WellFormed) (secondFormed : second.WellFormed)

include keepsPlaces firstFormed secondFormed

theorem eq_forward
    {depth : Nat}
    {id image : ClassId}
    (counterparts : Counterparts first second options package depth id image) :
    image = forward id := by
  obtain ⟨_, _, others⟩ := keepsPlaces id (counterparts.isClass firstFormed)
  exact counterparts.unique firstFormed secondFormed others

theorem typeOf?_forward
    {id : ClassId}
    (isClass : id ∈ first.classIds) :
    second.typeOf? (forward id) = first.typeOf? id := by
  obtain ⟨_, _, counterparts⟩ := keepsPlaces id isClass
  exact counterparts.typeOf?_eq firstFormed secondFormed

theorem bijOn
    (sameBlocks : first.packageBlocks options = second.packageBlocks options) :
    Set.BijOn forward {id | id ∈ first.classIds} {id | id ∈ second.classIds} := by
  refine ⟨fun id isClass => ?_, fun id isClass other otherIsClass same => ?_,
    fun image isClass => ?_⟩
  · obtain ⟨_, _, counterparts⟩ := keepsPlaces id isClass
    exact counterparts.symm.isClass secondFormed
  · obtain ⟨_, _, _, _, typed⟩ := firstFormed.typed id isClass
    apply firstFormed.distinct typed
    rw [← keepsPlaces.typeOf?_forward firstFormed secondFormed otherIsClass, ← same,
      keepsPlaces.typeOf?_forward firstFormed secondFormed isClass]
    exact typed
  · obtain ⟨package, name, packaged, named, _⟩ := secondFormed.typed image isClass
    obtain ⟨rest, around⟩ := named.reachesTop
    obtain ⟨id, counterparts⟩ :=
      exists_counterpart secondFormed firstFormed sameBlocks.symm isClass packaged around
    have isImage := keepsPlaces.eq_forward firstFormed secondFormed counterparts.symm
    exact ⟨id, counterparts.symm.isClass firstFormed, isImage.symm⟩

theorem topLevelOf_eq
    (sameBlocks : first.packageBlocks options = second.packageBlocks options)
    (isName : package ∈ first.packageNames) :
    second.topLevelOf package = (first.topLevelOf package).map forward := by
  apply eq_map_of_map_eq (topLevelOf_shown sameBlocks isName)
  intro id isTop image imageIsTop shown
  exact keepsPlaces.eq_forward firstFormed secondFormed (.outermost isTop imageIsTop shown)

theorem nested_eq
    {outer : ClassId}
    (isClass : outer ∈ first.classIds) :
    second.nested (forward outer) = (first.nested outer).map forward := by
  obtain ⟨package, depth, outside⟩ := keepsPlaces outer isClass
  apply eq_map_of_map_eq (outside.nested_shown firstFormed secondFormed)
  intro id isNested image imageIsNested shown
  exact keepsPlaces.eq_forward firstFormed secondFormed
    (.inside outside isNested imageIsNested shown)

theorem enclosing?_eq
    {id : ClassId}
    (isClass : id ∈ first.classIds) :
    second.enclosing? (forward id) = (first.enclosing? id).map forward := by
  obtain ⟨package, depth, counterparts⟩ := keepsPlaces id isClass
  generalize isImage : forward id = image at counterparts ⊢
  cases counterparts with
  | outermost isTop imageIsTop =>
      rw [(mem_topLevel.1 (mem_topLevelOf.1 isTop).1).2,
        (mem_topLevel.1 (mem_topLevelOf.1 imageIsTop).1).2]
      rfl
  | inside outside isNested imageIsNested =>
      rw [firstFormed.mem_nested.1 isNested, secondFormed.mem_nested.1 imageIsNested,
        keepsPlaces.eq_forward firstFormed secondFormed outside]
      rfl

/-- Supertypes of counterparts are counterparts if their types are the same. -/
theorem supertypes_eq
    {id : ClassId}
    (sameTypes : (second.supertypes (forward id)).map second.typeOf? =
      (first.supertypes id).map first.typeOf?) :
    second.supertypes (forward id) = (first.supertypes id).map forward := by
  apply eq_map_of_map_eq sameTypes.symm
  intro supertype member image isImage same
  have isClass := firstFormed.supertype_mem member
  obtain ⟨_, _, _, _, typed⟩ := firstFormed.typed supertype isClass
  apply secondFormed.distinct
  · rw [← same]
    exact typed
  · rw [keepsPlaces.typeOf?_forward firstFormed secondFormed isClass]
    exact typed

/-- A map that keeps places is a renumbering if it keeps fields and the types of supertypes. -/
theorem renumbering
    (sameBlocks : first.packageBlocks options = second.packageBlocks options)
    (sameFields : ∀ id ∈ first.classIds, second.fieldList (forward id) = first.fieldList id)
    (sameTypes : ∀ id ∈ first.classIds, (second.supertypes (forward id)).map second.typeOf? =
      (first.supertypes id).map first.typeOf?) :
    first.Renumbering second forward := by
  constructor
  case bijective => exact keepsPlaces.bijOn firstFormed secondFormed sameBlocks
  case name =>
    intro id isClass
    obtain ⟨_, _, counterparts⟩ := keepsPlaces id isClass
    obtain ⟨found, other, isFound, otherFound, same⟩ :=
      counterparts.sameName firstFormed secondFormed
    rw [isFound, otherFound, Option.map_some, Option.map_some, same]
  case package =>
    intro id isClass
    obtain ⟨_, _, counterparts⟩ := keepsPlaces id isClass
    rw [counterparts.packaged firstFormed, counterparts.symm.packaged secondFormed]
  case enclosing =>
    exact fun id isClass => keepsPlaces.enclosing?_eq firstFormed secondFormed isClass
  case fields => exact sameFields
  case supertypes =>
    exact fun id isClass => keepsPlaces.supertypes_eq firstFormed secondFormed (sameTypes id isClass)
  case topLevel_order =>
    intro earlier earlierTop later laterTop samePackage before
    obtain ⟨package, _, packaged, _⟩ := firstFormed.typed earlier (mem_topLevel.1 earlierTop).1
    have isName := mem_packageNames.2 ⟨earlier, earlierTop, packaged⟩
    have images := keepsPlaces.topLevelOf_eq firstFormed secondFormed sameBlocks isName
    apply index_lt_of_sorted (first.topLevelOf_sorted package)
    · rw [← images]
      exact second.topLevelOf_sorted package
    · exact mem_topLevelOf.2 ⟨earlierTop, packaged⟩
    · exact mem_topLevelOf.2 ⟨laterTop, samePackage ▸ packaged⟩
    · exact before
  case nested_order =>
    intro earlier _ later _ isNested sameOuter before
    obtain ⟨outer, enclosed⟩ := Option.isSome_iff_exists.1 isNested
    have images := keepsPlaces.nested_eq firstFormed secondFormed (firstFormed.enclosing_mem enclosed)
    apply index_lt_of_sorted (firstFormed.nested_sorted outer)
    · rw [← images]
      exact secondFormed.nested_sorted _
    · exact firstFormed.mem_nested.2 enclosed
    · exact firstFormed.mem_nested.2 (sameOuter ▸ enclosed)
    · exact before

end KeepsPlaces

end Outline
end SchemaBinding
