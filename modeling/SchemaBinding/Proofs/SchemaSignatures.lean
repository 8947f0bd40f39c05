import SchemaBinding.Proofs.BoundOutlines
import SchemaBinding.Proofs.RenderedTrees

/-!
# Signatures of schemas

The signature of the outline of a schema, written with the core package hidden, tells the outline up
to the numbers of its classes, packages and fields.
-/

namespace SchemaBinding
namespace Schema

/-- What holds of the outline of a schema. -/
structure BoundOutline (package : String) (outline : Outline) : Prop where
  dotted : Text.Dotted package.toList
  formed : outline.WellFormed
  packages : outline.packages = [package]
  names : ∀ {id found}, outline.class? id = some found → ∃ localName, found.name = className localName
  fields : ∀ field ∈ outline.fields, Text.Nameable field.name.toList ∧ BoundType package field.type

theorem BoundDraft.boundOutline
    {package : String}
    {draft : Draft}
    {outline : Outline}
    (bound : BoundDraft package draft)
    (dotted : Text.Dotted package.toList)
    (finished : draft.finish = .ok outline) :
    BoundOutline package outline := by
  obtain ⟨transcript, built⟩ := bound.built
  obtain ⟨valid, types, typed, rfl⟩ := built.coherent.valid_of_finish finished
  refine ⟨dotted, valid.wellFormed built.coherent typed, bound.packages, ?_, bound.fields⟩
  intro id found isFound
  rw [valid.class?_outlineWith, Option.map_eq_some_iff] at isFound
  obtain ⟨source, defined, rfl⟩ := isFound
  obtain ⟨localName, same⟩ := bound.names defined
  exact ⟨localName, same⟩

theorem dotted_packageName
    (target : Option String) :
    Text.Dotted (packageName {} target).toList := by
  cases target with
  | none =>
      apply Text.Nameable.dotted
      apply Text.nameable_of_all
      show defaultPackage.toList.all fun c => Text.isNameCode c.toNat
      decide +kernel
  | some uri => exact dotted_packageOfNamespace uri

/-- What holds of the outline of every schema that is bound with default options. -/
theorem exists_boundOutline
    {document : Xml.Document}
    {outline : Outline}
    (accepted : (bindXml {} document).1 = .ok outline) :
    ∃ package, BoundOutline package outline := by
  unfold bindXml at accepted
  split at accepted
  next schema read =>
    obtain ⟨draft, bound, finished⟩ := boundDraft_of_bind accepted
    exact ⟨_, bound.boundOutline (dotted_packageName _) finished⟩
  next => cases accepted

/-! ## Readability -/

theorem unbroken_of_dotted
    {name : String}
    (dotted : Text.Dotted name.toList) :
    Unbroken name :=
  ⟨dotted.not_mem rfl (by decide), dotted.not_mem rfl (by decide), dotted.not_mem rfl (by decide)⟩

theorem displaySupertype_reference
    (package path : String) :
    Outline.displaySupertype {} package (.reference package path) = path := by
  simp [Outline.displaySupertype, TypeRef.reference, TypeRef.displayName]

namespace BoundOutline

variable {package : String} {outline : Outline}

theorem packageNameOf?_eq
    (bound : BoundOutline package outline)
    {id : ClassId}
    {other : String}
    (packaged : outline.packageNameOf? id = some other) :
    other = package := by
  obtain ⟨found, _, isPackage⟩ := Option.bind_eq_some_iff.1 packaged
  have member : other ∈ outline.packages := List.mem_of_getElem? isPackage
  rw [bound.packages, List.mem_singleton] at member
  exact member

theorem typed
    (bound : BoundOutline package outline)
    {id : ClassId}
    (isClass : id ∈ outline.classIds) :
    ∃ path, ClassPath path ∧ outline.typeOf? id = some (.reference package path) := by
  obtain ⟨other, path, packaged, named, typed⟩ := bound.formed.typed id isClass
  rw [bound.packageNameOf?_eq packaged] at typed
  exact ⟨path, classPath_of_dottedName bound.names named, typed⟩

theorem mem_supertypes
    (bound : BoundOutline package outline)
    {id : ClassId}
    {type : TypeRef}
    (member : type ∈ (outline.supertypes id).filterMap outline.typeOf?) :
    ∃ path, ClassPath path ∧ type = .reference package path := by
  obtain ⟨supertype, isSupertype, hasType⟩ := List.mem_filterMap.1 member
  obtain ⟨path, isPath, typed⟩ := bound.typed (bound.formed.supertype_mem isSupertype)
  rw [typed, Option.some.injEq] at hasType
  exact ⟨path, isPath, hasType.symm⟩

theorem mem_fieldList
    (bound : BoundOutline package outline)
    {id : ClassId}
    {field : String × TypeRef}
    (member : field ∈ outline.fieldList id) :
    Text.Nameable field.1.toList ∧ BoundType package field.2 := by
  obtain ⟨source, isField, rfl⟩ := List.mem_map.1 member
  obtain ⟨fieldId, _, isSource⟩ := List.mem_filterMap.1 isField
  exact bound.fields source (List.mem_of_getElem? isSource)

theorem legible
    (bound : BoundOutline package outline) :
    outline.Legible {} := by
  have isPackage : ∀ other ∈ outline.packageNames, other = package := by
    intro other isName
    obtain ⟨top, _, packaged⟩ := Outline.mem_packageNames.1 isName
    exact bound.packageNameOf?_eq packaged
  constructor
  case packages =>
    intro other isName
    rw [isPackage other isName]
    exact (unbroken_of_dotted bound.dotted).noLineEnd
  case classes =>
    intro id found isFound
    obtain ⟨localName, same⟩ := bound.names isFound
    rw [same]
    exact unbroken_of_dotted (nameable_className localName).dotted
  case supertypes =>
    intro other isName id isClass type typed
    obtain ⟨path, isPath, isType⟩ := bound.typed isClass
    obtain rfl : type = .reference package path := Option.some.inj (typed.symm.trans isType)
    rw [isPackage other isName, displaySupertype_reference]
    exact unbroken_of_dotted isPath.dotted
  case fields =>
    intro field member
    obtain ⟨nameable, boundType⟩ := bound.fields field member
    exact ⟨boundType.not_mem_display bound.dotted, unbroken_of_dotted nameable.dotted⟩

theorem readable_packageBlocks
    (bound : BoundOutline package outline) :
    ∀ block ∈ outline.packageBlocks {}, block.Readable :=
  bound.legible.readable_packageBlocks bound.formed

end BoundOutline

/-! ## Counterparts -/

section Counterparts

variable {package firstPackage secondPackage : String} {first second : Outline} {depth : Nat}
  {id image : ClassId}

open Outline (Counterparts)

/-- Counterparts in outlines of schemas have the same fields. -/
theorem fieldList_eq_of_counterparts
    (firstBound : BoundOutline firstPackage first)
    (secondBound : BoundOutline secondPackage second)
    (counterparts : Counterparts first second {} package depth id image) :
    second.fieldList image = first.fieldList id := by
  have isFirst := firstBound.packageNameOf?_eq (counterparts.packaged firstBound.formed)
  have isSecond := secondBound.packageNameOf?_eq (counterparts.symm.packaged secondBound.formed)
  subst isFirst isSecond
  have shown := congrArg ClassTree.fields counterparts.shown
  rw [Outline.classTree_fields, Outline.classTree_fields] at shown
  rw [← List.map_id (first.fieldList id)]
  apply Outline.eq_map_of_map_eq shown
  intro field member other otherMember same
  obtain ⟨sameType, sameName⟩ := Prod.mk.inj same
  have equalType := (firstBound.mem_fieldList member).2.display_injective firstBound.dotted
    (secondBound.mem_fieldList otherMember).2 sameType
  exact Prod.ext sameName.symm equalType.symm

/-- Counterparts in outlines of schemas have supertypes of the same types. -/
theorem supertypes_eq_of_counterparts
    (firstBound : BoundOutline firstPackage first)
    (secondBound : BoundOutline secondPackage second)
    (counterparts : Counterparts first second {} package depth id image) :
    (second.supertypes image).map second.typeOf? = (first.supertypes id).map first.typeOf? := by
  have isFirst := firstBound.packageNameOf?_eq (counterparts.packaged firstBound.formed)
  have isSecond := secondBound.packageNameOf?_eq (counterparts.symm.packaged secondBound.formed)
  subst isFirst isSecond
  have shown := congrArg ClassTree.supertypes counterparts.shown
  rw [Outline.classTree_supertypes, Outline.classTree_supertypes] at shown
  rw [firstBound.formed.map_typeOf?_supertypes, secondBound.formed.map_typeOf?_supertypes]
  congr 1
  rw [← List.map_id ((first.supertypes id).filterMap first.typeOf?)]
  apply Outline.eq_map_of_map_eq shown
  intro type member other otherMember same
  obtain ⟨path, _, rfl⟩ := firstBound.mem_supertypes member
  obtain ⟨otherPath, _, rfl⟩ := secondBound.mem_supertypes otherMember
  rw [displaySupertype_reference, displaySupertype_reference] at same
  rw [same]
  rfl

end Counterparts

/-- No change of a binding goes unnoticed: if the outlines of two schemas have the same signature,
they are the same up to the numbers of classes, packages and fields, with the same packages, classes
in the same places and in the same order, and the same types of classes and supertypes. -/
theorem renumbering_of_signature_eq
    {firstDocument secondDocument : Xml.Document}
    {first second : Outline}
    (firstAccepted : (bindXml {} firstDocument).1 = .ok first)
    (secondAccepted : (bindXml {} secondDocument).1 = .ok second)
    (same : first.signature {} = second.signature {}) :
    ∃ forward, first.Renumbering second forward ∧
      second.packageNames = first.packageNames ∧
      (∀ package, second.topLevelOf package = (first.topLevelOf package).map forward) ∧
      ∀ id ∈ first.classIds,
        second.nested (forward id) = (first.nested id).map forward ∧
        second.typeOf? (forward id) = first.typeOf? id ∧
        (second.supertypes (forward id)).map second.typeOf? =
          (first.supertypes id).map first.typeOf? := by
  obtain ⟨firstPackage, firstBound⟩ := exists_boundOutline firstAccepted
  obtain ⟨secondPackage, secondBound⟩ := exists_boundOutline secondAccepted
  have firstFormed := firstBound.formed
  have secondFormed := secondBound.formed
  have sameBlocks := Outline.packageBlocks_eq_of_signature_eq firstBound.readable_packageBlocks
    secondBound.readable_packageBlocks same
  obtain ⟨forward, keepsPlaces⟩ :=
    Outline.exists_keepsPlaces firstFormed secondFormed sameBlocks
  have sameFields : ∀ id ∈ first.classIds,
      second.fieldList (forward id) = first.fieldList id := by
    intro id isClass
    obtain ⟨_, _, counterparts⟩ := keepsPlaces id isClass
    exact fieldList_eq_of_counterparts firstBound secondBound counterparts
  have sameTypes : ∀ id ∈ first.classIds, (second.supertypes (forward id)).map second.typeOf? =
      (first.supertypes id).map first.typeOf? := by
    intro id isClass
    obtain ⟨_, _, counterparts⟩ := keepsPlaces id isClass
    exact supertypes_eq_of_counterparts firstBound secondBound counterparts
  have renumbering :=
    keepsPlaces.renumbering firstFormed secondFormed sameBlocks sameFields sameTypes
  refine ⟨forward, renumbering, renumbering.packageNames_forward, renumbering.topLevelOf_forward, ?_⟩
  intro id isClass
  refine ⟨?_, ?_, sameTypes id isClass⟩
  · exact renumbering.nested_forward firstFormed secondFormed isClass
  · exact renumbering.typeOf?_forward firstFormed secondFormed isClass

/-- An element of the schema language. -/
def schemaNode (localName : String) (attributes : List (String × String))
    (children : List Xml.Node) : Xml.Node :=
  .element ⟨schemaName localName, [], attributes.map fun (name, value) => ⟨⟨none, name⟩, value⟩⟩
    children

/-- A schema of orders, with the items inside them in a group of a given kind. -/
def shopSchema (group : String) : Xml.Document where
  root := ⟨schemaName "schema", [⟨some "shop", "urn:shop"⟩],
    [⟨⟨none, "targetNamespace"⟩, "urn:shop"⟩]⟩
  children := [
    schemaNode "complexType" [("name", "order")] [
      schemaNode group [] [
        schemaNode "element" [("name", "item")] [schemaNode "complexType" [] []],
        schemaNode "element" [("name", "note")] []]],
    schemaNode "complexType" [("name", "rush-order")] [
      schemaNode "complexContent" [] [schemaNode "extension" [("base", "shop:order")] []]]]

/-- The outline of the schema, in which the kind of the group is lost. -/
def shopOutline : Outline where
  packages := ["shop"]
  classes := [⟨"Order", ⟨0⟩, none, [⟨0⟩, ⟨1⟩], [], [⟨2⟩]⟩, ⟨"RushOrder", ⟨0⟩, none, [], [⟨0⟩], []⟩,
    ⟨"Item", ⟨0⟩, some ⟨0⟩, [], [], []⟩]
  fields := [⟨"item", .reference "shop" "Order.Item", ⟨0⟩⟩, ⟨"note", .object, ⟨0⟩⟩]
  types := [.reference "shop" "Order", .reference "shop" "RushOrder",
    .reference "shop" "Order.Item"]

theorem shop_renumbering :
    ∃ first second forward, (bindXml {} (shopSchema "sequence")).1 = .ok first ∧
      (bindXml {} (shopSchema "all")).1 = .ok second ∧
      first.signature {} = second.signature {} ∧ first.nested ⟨0⟩ = [⟨2⟩] ∧
      first.Renumbering second forward := by
  have accepted : ∀ group ∈ ["sequence", "all"],
      (bindXml {} (shopSchema group)).1 = .ok shopOutline := by
    decide +kernel
  have sequenceAccepted := accepted "sequence" (by decide)
  have allAccepted := accepted "all" (by decide)
  obtain ⟨forward, renumbering, _⟩ :=
    renumbering_of_signature_eq sequenceAccepted allAccepted rfl
  exact ⟨shopOutline, shopOutline, forward, sequenceAccepted, allAccepted, rfl, rfl, renumbering⟩

end Schema
end SchemaBinding
