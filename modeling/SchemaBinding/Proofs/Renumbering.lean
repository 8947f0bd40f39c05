import Mathlib.Data.Set.Function
import SchemaBinding.Proofs.Finished

/-!
# Renumbering

Two outlines can be the same model with classes, packages and fields created in different orders.
A signature shows the model and not the numbers: it only depends on the order of classes that stand
side by side.
-/

namespace SchemaBinding
namespace Outline

/-- The names and types of the fields of a class, in the order of declaration. -/
def fieldList (outline : Outline) (id : ClassId) : List (String × TypeRef) :=
  (outline.fieldsOf id).map fun field => (field.name, field.type)

/-- A map between the classes of two outlines that leaves the model as it is. -/
structure Renumbering (first second : Outline) (forward : ClassId → ClassId) : Prop where
  /-- Every class of each outline has one counterpart in the other. -/
  bijective : Set.BijOn forward {id | id ∈ first.classIds} {id | id ∈ second.classIds}
  /-- Names are the same. -/
  name : ∀ id ∈ first.classIds,
    (second.class? (forward id)).map Class.name = (first.class? id).map Class.name
  /-- Packages have the same names. -/
  package : ∀ id ∈ first.classIds, second.packageNameOf? (forward id) = first.packageNameOf? id
  /-- Enclosing classes are counterparts. -/
  enclosing : ∀ id ∈ first.classIds,
    second.enclosing? (forward id) = (first.enclosing? id).map forward
  /-- Fields have the same names and types in the same order. -/
  fields : ∀ id ∈ first.classIds, second.fieldList (forward id) = first.fieldList id
  /-- Supertypes are counterparts in the same order. -/
  supertypes : ∀ id ∈ first.classIds,
    second.supertypes (forward id) = (first.supertypes id).map forward
  /-- Classes of one package that are not nested are in the same order. -/
  topLevel_order : ∀ earlier ∈ first.topLevel, ∀ later ∈ first.topLevel,
    first.packageNameOf? earlier = first.packageNameOf? later →
      earlier.index < later.index → (forward earlier).index < (forward later).index
  /-- Classes nested in one class are in the same order. -/
  nested_order : ∀ earlier ∈ first.classIds, ∀ later ∈ first.classIds,
    (first.enclosing? earlier).isSome → first.enclosing? earlier = first.enclosing? later →
      earlier.index < later.index → (forward earlier).index < (forward later).index

/-- The classes of a package that are not nested, in the order of creation. -/
def topLevelOf (outline : Outline) (package : String) : List ClassId :=
  outline.topLevel.filter fun id => outline.packageNameOf? id = some package

variable {outline : Outline}

theorem mem_topLevel
    {id : ClassId} :
    id ∈ outline.topLevel ↔ id ∈ outline.classIds ∧ outline.enclosing? id = none := by
  simp [topLevel]

theorem mem_topLevelOf
    {package : String}
    {id : ClassId} :
    id ∈ outline.topLevelOf package ↔
      id ∈ outline.topLevel ∧ outline.packageNameOf? id = some package := by
  simp [topLevelOf]

theorem topLevelOf_sorted
    (outline : Outline)
    (package : String) :
    (outline.topLevelOf package).Pairwise fun first second => first.index < second.index :=
  (outline.classIds_sorted.filter _).filter _

/-- A package has a block exactly if it has a class that is not nested. -/
theorem mem_packageNames
    {package : String} :
    package ∈ outline.packageNames ↔
      ∃ id ∈ outline.topLevel, outline.packageNameOf? id = some package := by
  rw [packageNames, List.mem_mergeSort, List.mem_eraseDups, List.mem_filterMap]

theorem nodup_eraseDups
    {Item : Type}
    [BEq Item]
    [LawfulBEq Item]
    (items : List Item) :
    items.eraseDups.Nodup := by
  generalize bound : items.length = count
  induction count using Nat.strongRecOn generalizing items with
  | ind count inductionHypothesis =>
      cases items with
      | nil => exact .nil
      | cons first rest =>
          rw [List.eraseDups_cons, List.nodup_cons]
          refine ⟨by simp, ?_⟩
          have shorter := List.length_filter_le (fun item => !item == first) rest
          rw [List.length_cons] at bound
          exact inductionHypothesis _ (by omega) _ rfl

theorem nodup_packageNames
    (outline : Outline) :
    outline.packageNames.Nodup :=
  (List.mergeSort_perm _ _).nodup_iff.2 (nodup_eraseDups _)

/-- The names of the packages are in ascending order. -/
theorem packageNames_sorted
    (outline : Outline) :
    outline.packageNames.Pairwise fun left right => left < right := by
  have sorted : outline.packageNames.Pairwise fun left right => decide (left ≤ right) := by
    apply List.pairwise_mergeSort
    · intro left middle right below above
      rw [decide_eq_true_iff] at below above ⊢
      exact Std.le_trans below above
    · intro left right
      rw [Bool.or_eq_true, decide_eq_true_iff, decide_eq_true_iff]
      exact Std.le_total
  apply (sorted.and outline.nodup_packageNames).imp
  rintro left right ⟨below, different⟩
  exact Std.lt_of_le_of_ne (of_decide_eq_true below) different

/-- The names of the packages depend on which they are, and not on the order of creation. -/
theorem packageNames_eq
    {first second : Outline}
    (same : ∀ package, package ∈ first.packageNames ↔ package ∈ second.packageNames) :
    first.packageNames = second.packageNames :=
  first.packageNames_sorted.eq_of_mem_iff second.packageNames_sorted same

/-- The classes nested in an image are the images of the nested classes, if enclosing classes are
images and nested ones keep their order. -/
theorem nested_eq_map
    {first second : Outline}
    {forward : ClassId → ClassId}
    (firstFormed : first.WellFormed)
    (secondFormed : second.WellFormed)
    (bijective : Set.BijOn forward {id | id ∈ first.classIds} {id | id ∈ second.classIds})
    (enclosing : ∀ id ∈ first.classIds,
      second.enclosing? (forward id) = (first.enclosing? id).map forward)
    {outer : ClassId}
    (ordered : ∀ earlier later, first.enclosing? earlier = some outer →
      first.enclosing? later = some outer → earlier.index < later.index →
        (forward earlier).index < (forward later).index)
    (isClass : outer ∈ first.classIds) :
    second.nested (forward outer) = (first.nested outer).map forward := by
  apply (secondFormed.nested_sorted _).eq_of_mem_iff
  · rw [List.pairwise_map]
    refine (firstFormed.nested_sorted outer).imp_of_mem ?_
    intro earlier later earlierNested laterNested before
    exact ordered earlier later (firstFormed.mem_nested.1 earlierNested)
      (firstFormed.mem_nested.1 laterNested) before
  · intro image
    rw [secondFormed.mem_nested, List.mem_map]
    constructor
    · intro enclosed
      obtain ⟨inner, innerIsClass, rfl⟩ := bijective.surjOn (mem_classIds_of_enclosing? enclosed)
      rw [enclosing inner innerIsClass, Option.map_eq_some_iff] at enclosed
      obtain ⟨around, innerEnclosed, sameImage⟩ := enclosed
      have same := bijective.injOn (firstFormed.enclosing_mem innerEnclosed) isClass sameImage
      exact ⟨inner, firstFormed.mem_nested.2 (same ▸ innerEnclosed), rfl⟩
    · rintro ⟨inner, innerNested, rfl⟩
      have enclosed := firstFormed.mem_nested.1 innerNested
      rw [enclosing inner (mem_classIds_of_enclosing? enclosed), enclosed]
      rfl

namespace Renumbering

variable {first second : Outline} {forward : ClassId → ClassId}

theorem bijOn_of_perm
    (perm : (first.classIds.map forward).Perm second.classIds) :
    Set.BijOn forward {id | id ∈ first.classIds} {id | id ∈ second.classIds} := by
  refine ⟨fun id isClass => ?_, ?_, fun image isClass => ?_⟩
  · exact perm.mem_iff.1 (List.mem_map_of_mem isClass)
  · have distinct := perm.nodup_iff.2 second.nodup_classIds
    exact fun left leftIsClass right rightIsClass same =>
      List.inj_on_of_nodup_map distinct leftIsClass rightIsClass same
  · exact List.mem_map.1 (perm.mem_iff.2 isClass)

theorem class?_forward
    (renumbering : first.Renumbering second forward)
    {id : ClassId}
    {found : Class}
    (isFound : first.class? id = some found) :
    ∃ image, second.class? (forward id) = some image ∧ image.name = found.name ∧
      image.enclosing = found.enclosing.map forward := by
  have isClass := mem_classIds_of_class? isFound
  have sameName := renumbering.name id isClass
  have sameEnclosing := renumbering.enclosing id isClass
  rw [isFound, Option.map_some, Option.map_eq_some_iff] at sameName
  obtain ⟨image, imageFound, imageName⟩ := sameName
  rw [enclosing?, enclosing?, isFound, imageFound] at sameEnclosing
  exact ⟨image, imageFound, imageName, sameEnclosing⟩

/-- Counterparts have the same type. -/
theorem typeOf?_forward
    (renumbering : first.Renumbering second forward)
    (firstFormed : first.WellFormed)
    (secondFormed : second.WellFormed)
    {id : ClassId}
    (isClass : id ∈ first.classIds) :
    second.typeOf? (forward id) = first.typeOf? id := by
  obtain ⟨package, name, packaged, named, typed⟩ := firstFormed.typed id isClass
  obtain ⟨otherPackage, otherName, otherPackaged, otherNamed, otherTyped⟩ :=
    secondFormed.typed (forward id) (renumbering.bijective.mapsTo isClass)
  have sameName := otherNamed.unique (named.map renumbering.class?_forward)
  rw [renumbering.package id isClass, packaged, Option.some.injEq] at otherPackaged
  rw [otherTyped, typed, sameName, otherPackaged]

/-- The classes nested in a counterpart are the counterparts of the nested classes. -/
theorem nested_forward
    (renumbering : first.Renumbering second forward)
    (firstFormed : first.WellFormed)
    (secondFormed : second.WellFormed)
    {outer : ClassId}
    (isClass : outer ∈ first.classIds) :
    second.nested (forward outer) = (first.nested outer).map forward := by
  apply nested_eq_map firstFormed secondFormed renumbering.bijective renumbering.enclosing _ isClass
  intro earlier later earlierEnclosed laterEnclosed before
  apply renumbering.nested_order earlier _ later _ _ _ before
  · exact mem_classIds_of_enclosing? earlierEnclosed
  · exact mem_classIds_of_enclosing? laterEnclosed
  · rw [earlierEnclosed]
    rfl
  · rw [earlierEnclosed, laterEnclosed]

theorem mem_topLevel_forward
    (renumbering : first.Renumbering second forward)
    {image : ClassId} :
    image ∈ second.topLevel ↔ ∃ id ∈ first.topLevel, forward id = image := by
  constructor
  · intro isTop
    obtain ⟨isClass, unenclosed⟩ := mem_topLevel.1 isTop
    obtain ⟨id, idIsClass, rfl⟩ := renumbering.bijective.surjOn isClass
    rw [renumbering.enclosing id idIsClass, Option.map_eq_none_iff] at unenclosed
    exact ⟨id, mem_topLevel.2 ⟨idIsClass, unenclosed⟩, rfl⟩
  · rintro ⟨id, isTop, rfl⟩
    obtain ⟨isClass, unenclosed⟩ := mem_topLevel.1 isTop
    refine mem_topLevel.2 ⟨renumbering.bijective.mapsTo isClass, ?_⟩
    rw [renumbering.enclosing id isClass, unenclosed]
    rfl

/-- The classes of a package that are not nested are counterparts in the same order. -/
theorem topLevelOf_forward
    (renumbering : first.Renumbering second forward)
    (package : String) :
    second.topLevelOf package = (first.topLevelOf package).map forward := by
  apply (second.topLevelOf_sorted package).eq_of_mem_iff
  · rw [List.pairwise_map]
    refine (first.topLevelOf_sorted package).imp_of_mem ?_
    intro earlier later earlierMember laterMember before
    obtain ⟨earlierTop, earlierPackaged⟩ := mem_topLevelOf.1 earlierMember
    obtain ⟨laterTop, laterPackaged⟩ := mem_topLevelOf.1 laterMember
    exact renumbering.topLevel_order earlier earlierTop later laterTop
      (earlierPackaged.trans laterPackaged.symm) before
  · intro image
    rw [mem_topLevelOf, renumbering.mem_topLevel_forward, List.mem_map]
    constructor
    · rintro ⟨⟨id, isTop, rfl⟩, packaged⟩
      rw [renumbering.package id (mem_topLevel.1 isTop).1] at packaged
      exact ⟨id, mem_topLevelOf.2 ⟨isTop, packaged⟩, rfl⟩
    · rintro ⟨id, member, rfl⟩
      obtain ⟨isTop, packaged⟩ := mem_topLevelOf.1 member
      refine ⟨⟨id, isTop, rfl⟩, ?_⟩
      rw [renumbering.package id (mem_topLevel.1 isTop).1]
      exact packaged

theorem packageNames_forward
    (renumbering : first.Renumbering second forward) :
    second.packageNames = first.packageNames := by
  apply packageNames_eq
  intro package
  have nonempty : ∀ outline : Outline, package ∈ outline.packageNames ↔
      ∃ id, id ∈ outline.topLevelOf package := by
    intro outline
    rw [mem_packageNames]
    simp only [mem_topLevelOf]
  rw [nonempty, nonempty, renumbering.topLevelOf_forward]
  simp

theorem length_classes
    (renumbering : first.Renumbering second forward) :
    second.classes.length = first.classes.length := by
  have perm : second.classIds.Perm (first.classIds.map forward) := by
    apply (List.perm_ext_iff_of_nodup second.nodup_classIds _).2
    · intro image
      rw [List.mem_map]
      constructor
      · exact fun isClass => renumbering.bijective.surjOn isClass
      · rintro ⟨id, isClass, rfl⟩
        exact renumbering.bijective.mapsTo isClass
    · exact first.nodup_classIds.map_on fun left leftIsClass right rightIsClass =>
        renumbering.bijective.injOn leftIsClass rightIsClass
  have lengths := perm.length_eq
  simpa [classIds] using lengths

/-- Counterparts are shown alike, with everything inside them. -/
theorem classTree_forward
    (renumbering : first.Renumbering second forward)
    (firstFormed : first.WellFormed)
    (secondFormed : second.WellFormed)
    (options : SignatureOptions)
    (package : String)
    (depth : Nat)
    {id : ClassId}
    (isClass : id ∈ first.classIds) :
    second.classTree options package depth (forward id) =
      first.classTree options package depth id := by
  induction depth using Nat.strongRecOn generalizing id with
  | ind depth inductionHypothesis =>
      have sameName : (second.class? (forward id)).elim "" Class.name =
          (first.class? id).elim "" Class.name := by
        obtain ⟨_, _, _, named, _⟩ := firstFormed.typed id isClass
        obtain ⟨found, isFound⟩ := named.defined
        obtain ⟨image, imageFound, imageName, _⟩ := renumbering.class?_forward isFound
        rw [isFound, imageFound]
        exact imageName
      have sameSupertypes : (second.supertypes (forward id)).filterMap second.typeOf? =
          (first.supertypes id).filterMap first.typeOf? := by
        rw [renumbering.supertypes id isClass, List.filterMap_map]
        apply List.filterMap_congr
        intro supertype member
        exact renumbering.typeOf?_forward firstFormed secondFormed
          (firstFormed.supertype_mem member)
      have sameFields : (second.fieldsOf (forward id)).map (fun field =>
          (displayType options field.type, field.name)) =
          (first.fieldsOf id).map fun field => (displayType options field.type, field.name) := by
        have lists := congrArg (List.map fun field => (displayType options field.2, field.1))
          (renumbering.fields id isClass)
        simpa [fieldList, Function.comp_def] using lists
      unfold classTree
      rw [sameName, sameSupertypes, sameFields]
      congr 1
      cases depth with
      | zero => rfl
      | succ depth =>
          simp only [renumbering.nested_forward firstFormed secondFormed isClass, List.map_map]
          apply List.map_congr_left
          intro inner member
          have enclosed := firstFormed.mem_nested.1 member
          exact inductionHypothesis depth (Nat.lt_succ_self _) (mem_classIds_of_enclosing? enclosed)

theorem packageBlock_forward
    (renumbering : first.Renumbering second forward)
    (firstFormed : first.WellFormed)
    (secondFormed : second.WellFormed)
    (options : SignatureOptions)
    (package : String) :
    second.packageBlock options package = first.packageBlock options package := by
  have sameClasses : (second.topLevelOf package).map
      (second.classTree options package second.classes.length) =
      (first.topLevelOf package).map (first.classTree options package first.classes.length) := by
    rw [renumbering.topLevelOf_forward, renumbering.length_classes, List.map_map]
    apply List.map_congr_left
    intro id member
    have isClass := (mem_topLevel.1 (mem_topLevelOf.1 member).1).1
    exact renumbering.classTree_forward firstFormed secondFormed options package _ isClass
  exact congrArg (PackageBlock.mk package) sameClasses

end Renumbering

/-- The signature shows the model: a finished outline in which classes, packages and fields have
other numbers has the same one, whatever is hidden. -/
theorem Finished.signature_eq_of_renumbering
    {first second : Outline}
    {forward : ClassId → ClassId}
    (firstFinished : first.Finished)
    (secondFinished : second.Finished)
    (renumbering : first.Renumbering second forward)
    (options : SignatureOptions) :
    first.signature options = second.signature options := by
  have sameBlocks : second.packageBlocks options = first.packageBlocks options := by
    unfold packageBlocks
    rw [renumbering.packageNames_forward]
    apply List.map_congr_left
    intro package _
    exact renumbering.packageBlock_forward firstFinished.wellFormed secondFinished.wellFormed
      options package
  unfold signature signaturePieces signatureLines
  rw [sameBlocks]

/-- Two packages, one with a nested class and one with a class that extends the outer class. -/
def orders : Outline where
  packages := ["shop", "audit"]
  classes := [⟨"Order", ⟨0⟩, none, [⟨0⟩], [], [⟨1⟩]⟩, ⟨"Item", ⟨0⟩, some ⟨0⟩, [], [], []⟩,
    ⟨"Entry", ⟨1⟩, none, [⟨1⟩], [⟨0⟩], []⟩]
  fields := [⟨"item", .reference "shop" "Order.Item", ⟨0⟩⟩, ⟨"day", .primitive "int", ⟨2⟩⟩]
  types := [.reference "shop" "Order", .reference "shop" "Order.Item", .reference "audit" "Entry"]

theorem orders_finished : orders.Finished :=
  finished_iff_ofScript.2 ⟨[.package "shop", .addClass "Order" ⟨0⟩ none,
    .addClass "Item" ⟨0⟩ (some ⟨0⟩), .addField ⟨0⟩ "item" (.reference "shop" "Order.Item"),
    .package "audit", .addClass "Entry" ⟨1⟩ none, .addSupertype ⟨2⟩ ⟨0⟩,
    .addField ⟨2⟩ "day" (.primitive "int")], by decide⟩

theorem orders_packageNames : orders.packageNames = ["audit", "shop"] := by
  show ["shop", "audit"].mergeSort = _
  simp [List.mergeSort, List.MergeSort.Internal.splitInTwo]

/-- The same packages and classes, which were created in another order. -/
def reorderedOrders : Outline where
  packages := ["audit", "shop"]
  classes := [⟨"Order", ⟨1⟩, none, [⟨1⟩], [], [⟨2⟩]⟩, ⟨"Entry", ⟨0⟩, none, [⟨0⟩], [⟨0⟩], []⟩,
    ⟨"Item", ⟨1⟩, some ⟨0⟩, [], [], []⟩]
  fields := [⟨"day", .primitive "int", ⟨1⟩⟩, ⟨"item", .reference "shop" "Order.Item", ⟨0⟩⟩]
  types := [.reference "shop" "Order", .reference "audit" "Entry", .reference "shop" "Order.Item"]

theorem reorderedOrders_finished : reorderedOrders.Finished :=
  finished_iff_ofScript.2 ⟨[.package "audit", .package "shop", .reserve,
    .addClass "Entry" ⟨0⟩ none, .addSupertype ⟨1⟩ ⟨0⟩, .addField ⟨1⟩ "day" (.primitive "int"),
    .addClass "Item" ⟨1⟩ (some ⟨0⟩), .define ⟨0⟩ "Order" ⟨1⟩ none,
    .addField ⟨0⟩ "item" (.reference "shop" "Order.Item")], by decide⟩

/-- Where the classes of the one are in the other. -/
def reorder : ClassId → ClassId
  | ⟨1⟩ => ⟨2⟩
  | ⟨2⟩ => ⟨1⟩
  | id => id

theorem reorder_renumbering : orders.Renumbering reorderedOrders reorder where
  bijective := Renumbering.bijOn_of_perm (by decide)
  name := by decide
  package := by decide
  enclosing := by decide
  fields := by decide
  supertypes := by decide
  topLevel_order := by decide
  nested_order := by decide

theorem orders_signature_eq :
    ∃ forward, orders.Renumbering reorderedOrders forward ∧
      ∀ options, orders.signature options = reorderedOrders.signature options :=
  ⟨reorder, reorder_renumbering, Finished.signature_eq_of_renumbering orders_finished
    reorderedOrders_finished reorder_renumbering⟩

end Outline
end SchemaBinding
