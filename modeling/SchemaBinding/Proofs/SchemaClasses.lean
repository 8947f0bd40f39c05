import SchemaBinding.Proofs.Acceptance
import SchemaBinding.Proofs.SchemaSignatures

/-!
# Classes of schemas

The classes of the outline of a schema and the complex types of the schema that they are made for.
-/

namespace SchemaBinding
namespace Schema

open Xml (Spot)

variable {options : BindingOptions} {document : Xml.Document} {portraits : List Portrait}
  {outline : Outline} {type : ComplexType}

/-- Whether a list holds the complex types of a document that classes are made for, each once and in
the order of their classes. -/
structure Enumerates (document : Xml.Document) (types : List ComplexType) : Prop where
  /-- The list holds these complex types and no others. -/
  mem_iff : ∀ type, type ∈ types ↔ Binds document type
  /-- Those at the top come first, and otherwise the order is that of the document. -/
  ordered : types.Pairwise ComplexType.Precedes
  /-- No two are in one place. -/
  places_nodup : (types.map ComplexType.place).Nodup
  /-- Each is in its place. -/
  located : ∀ type ∈ types, document.spot.descend? type.place = some type.spot

/-- Whether the classes of an outline are made for given complex types, in their order. -/
structure MadeFor (outline : Outline) (types : List ComplexType) : Prop where
  /-- There is one class for each complex type. -/
  length : outline.classes.length = types.length
  /-- A class is named after the declaration of its complex type. -/
  named : ∀ {id type}, types[id.index]? = some type → ∃ found name,
    outline.class? id = some found ∧ type.named.attribute? "name" = some name ∧
      found.name = className name
  /-- A class is nested in that of the complex type around its own, or is not nested. -/
  enclosing : ∀ {id type}, types[id.index]? = some type →
    (outline.enclosing? id).map (fun outer => types[outer.index]?) = type.around?.map some
  /-- A class knows the classes that are nested in it. -/
  nested : ∀ {id inner}, inner ∈ outline.nested id ↔ outline.enclosing? inner = some id

theorem enumerates_complexTypes
    (document : Xml.Document) :
    Enumerates document (complexTypes document) where
  mem_iff _ := mem_complexTypes_iff
  ordered := complexTypes_sorted document
  places_nodup := nodup_places document
  located _ member := (mem_complexTypes_iff.1 member).descend?

/-- What a part of the content of a complex type of a document gives to the class of that type. -/
def contributionIn (options : BindingOptions) (document : Xml.Document) (type : ComplexType) :
    Item → Deferred Contribution :=
  Item.contribution (environmentOf options document) (settingOf options document).packageName
    type.path

theorem Describes.exists_contributions
    (describes : Describes options document portraits)
    {index : Nat}
    (isType : (complexTypes document)[index]? = some type) :
    ∃ portrait, portraits[index]? = some portrait ∧ portrait.type = type ∧
      ∃ contributions : List Contribution,
        (contentItems type.spot).map (contributionIn options document type) =
          contributions.map .ok ∧
        portrait.fields = contributions.filterMap Contribution.field? := by
  obtain ⟨portrait, isPortrait, sameType, described⟩ := describes.exists_portrait isType
  exact ⟨portrait, isPortrait, sameType, ComplexType.fields_of_portrait? described⟩

/-- Nothing is at fault in the content of a complex type that a class is made for. -/
theorem Describes.exists_contribution
    (describes : Describes options document portraits)
    (binds : Binds document type)
    {item : Item}
    (member : item ∈ contentItems type.spot) :
    ∃ contribution, contributionIn options document type item = .ok contribution := by
  obtain ⟨index, isType⟩ := List.mem_iff_getElem?.1 (mem_complexTypes_iff.2 binds)
  obtain ⟨_, _, _, contributions, areContributions, _⟩ := describes.exists_contributions isType
  have isContribution := List.mem_map_of_mem (f := contributionIn options document type) member
  rw [areContributions] at isContribution
  obtain ⟨contribution, _, same⟩ := List.mem_map.1 isContribution
  exact ⟨contribution, same.symm⟩

/-- Complex types that classes are made for are in declarations that have names. -/
theorem Describes.exists_name
    (describes : Describes options document portraits)
    (binds : Binds document type) :
    ∃ name, type.named.attribute? "name" = some name := by
  cases binds with
  | complexType isChild construct =>
      have registrable := describes.registrable _ (Spot.mem_children.2 isChild)
      exact Option.isSome_iff_exists.1 (registrable.named (by simp [construct]))
  | element isChild construct first =>
      have registrable := describes.registrable _ (Spot.mem_children.2 isChild)
      exact Option.isSome_iff_exists.1 (registrable.named (by simp [construct]))
  | @nested outer item inner spot binds mapped isParticle noReference noType first =>
      have supported : item.role ≠ .unsupported := by
        rw [isParticle]
        decide
      obtain ⟨contribution, isContribution⟩ :=
        describes.exists_contribution binds ((mem_contentItems_iff supported).2 mapped)
      have isAnonymous := Item.anonymous?_eq_some_iff.2 ⟨isParticle, noReference, noType, first⟩
      unfold contributionIn Item.contribution at isContribution
      rw [isParticle] at isContribution
      dsimp only at isContribution
      rw [particleField_nested _ _ isAnonymous] at isContribution
      simp only [bind_eq_ok_iff] at isContribution
      obtain ⟨_, ⟨_, _, name, isName, _⟩, _⟩ := isContribution
      exact ⟨name, attribute?_of_required isName⟩

/-- The classes of the outline of a document are made for its complex types. -/
theorem madeFor_complexTypes
    (describes : Describes options document portraits)
    (depicts : Depicts options document outline portraits) :
    MadeFor outline (complexTypes document) where
  length := depicts.length.trans describes.length_eq
  named {id type} isType := by
    obtain ⟨portrait, isPortrait, rfl, _⟩ := describes.exists_portrait isType
    obtain ⟨found, isFound, sameName, _⟩ := depicts.found isPortrait
    have binds := mem_complexTypes_iff.1 (List.mem_of_getElem? isType)
    obtain ⟨name, isName⟩ := describes.exists_name binds
    refine ⟨found, name, isFound, isName, ?_⟩
    rw [sameName, nameOf, isName]
    rfl
  enclosing {id type} isType := by
    obtain ⟨portrait, isPortrait, rfl, _⟩ := describes.exists_portrait isType
    obtain ⟨found, isFound, _, around⟩ := depicts.found isPortrait
    rw [Outline.enclosing?, isFound, Option.bind_some, ← around]
    exact Option.map_congr fun outer _ => (describes.typeAt_eq outer).symm
  nested := depicts.formed.mem_nested

/-- Classes are made for exactly the complex types at the top of a schema, the first ones in elements
at the top, and the first ones in elements of the content of others that have no type of their own
and refer to no other element.  Each of them has one class, named after its declaration and nested in
the class of the complex type around it.  Those at the top are numbered first, and otherwise the
numbers follow the order of the document. -/
theorem classes_of_complexTypes
    (accepted : (bindXml options document).1 = .ok outline) :
    ∃ types, Enumerates document types ∧ MadeFor outline types := by
  obtain ⟨portraits, describes, depicts⟩ := depicts_of_accepted accepted
  exact ⟨complexTypes document, enumerates_complexTypes document,
    madeFor_complexTypes describes depicts⟩

/-- A schema whose declarations refer to later ones, with complex types at the top, in an element
and in local elements. -/
def supplySchema : Xml.Document where
  root := ⟨schemaName "schema", [⟨some "s", "urn:supply"⟩],
    [⟨⟨none, "targetNamespace"⟩, "urn:supply"⟩]⟩
  children := [
    schemaNode "complexType" [("name", "rush")] [
      schemaNode "complexContent" [] [
        schemaNode "extension" [("base", "s:order")] [
          schemaNode "choice" [("maxOccurs", "unbounded")] [
            schemaNode "element" [("name", "stop")] [
              schemaNode "complexType" [] [
                schemaNode "attribute" [("ref", "xml:lang")] []]],
            schemaNode "sequence" [] [schemaNode "element" [("ref", "s:note")] []]]]]],
    schemaNode "element" [("name", "note")] [
      schemaNode "complexType" [] [
        schemaNode "all" [] [schemaNode "element" [("name", "text")] []],
        schemaNode "attribute" [("ref", "xml:lang")] [],
        schemaNode "attribute" [("ref", "xml:space"), ("use", "prohibited")] []]],
    schemaNode "complexType" [("name", "order")] [
      schemaNode "sequence" [] [
        schemaNode "element" [("name", "line"), ("maxOccurs", "2")] [
          schemaNode "complexType" [] []],
        schemaNode "element" [("ref", "s:note")] []]]]

/-- The outline of the schema. -/
def supplyOutline : Outline where
  packages := ["supply"]
  classes := [⟨"Rush", ⟨0⟩, none, [⟨1⟩, ⟨2⟩], [⟨2⟩], [⟨3⟩]⟩, ⟨"Note", ⟨0⟩, none, [⟨3⟩, ⟨4⟩], [], []⟩,
    ⟨"Order", ⟨0⟩, none, [⟨5⟩, ⟨6⟩], [], [⟨4⟩]⟩, ⟨"Stop", ⟨0⟩, some ⟨0⟩, [⟨0⟩], [], []⟩,
    ⟨"Line", ⟨0⟩, some ⟨2⟩, [], [], []⟩]
  fields := [⟨"lang", .string, ⟨3⟩⟩, ⟨"stop", .listOf (.reference "supply" "Rush.Stop"), ⟨0⟩⟩,
    ⟨"note", .listOf (.reference "supply" "Note"), ⟨0⟩⟩, ⟨"text", .object, ⟨1⟩⟩,
    ⟨"lang", .string, ⟨1⟩⟩, ⟨"line", .listOf (.reference "supply" "Order.Line"), ⟨2⟩⟩,
    ⟨"note", .reference "supply" "Note", ⟨2⟩⟩]
  types := ["Rush", "Note", "Order", "Rush.Stop", "Order.Line"].map (.reference "supply")

theorem supply_accepted : (bindXml {} supplySchema).1 = .ok supplyOutline := by
  decide +kernel

theorem supply_classes :
    (bindXml {} supplySchema).1 = .ok supplyOutline ∧
      ∃ types, Enumerates supplySchema types ∧ MadeFor supplyOutline types ∧ types.length = 5 := by
  obtain ⟨types, enumerates, madeFor⟩ := classes_of_complexTypes supply_accepted
  exact ⟨supply_accepted, types, enumerates, madeFor, madeFor.length.symm⟩

end Schema
end SchemaBinding
