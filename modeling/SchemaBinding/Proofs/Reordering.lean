import SchemaBinding.Proofs.Acceptance
import SchemaBinding.Proofs.Handles
import SchemaBinding.Proofs.Reach

/-!
# Reordered schemas

Two schemas that have the same declarations in different orders.  Declarations are found under the
same names, references lead to the same types, and the complex types are the same apart from where
they stand, so that the classes for them have the same portraits.
-/

namespace SchemaBinding
namespace Schema

open Relation (TransGen)
open Xml (Place Spot)

/-! ## Lookups -/

/-- Whether the same is noted under each name, apart from the numbers of classes. -/
structure Globals.Alike (first second : Globals) : Prop where
  types : ∀ name, (second.types.lookup name).map TypeDefinition.unnumbered =
    (first.types.lookup name).map TypeDefinition.unnumbered
  elements : ∀ name, second.elements.lookup name = first.elements.lookup name
  attributes : ∀ name, second.attributes.lookup name = first.attributes.lookup name

/-- Whether two schemas are the same as far as references from the content of their types go. -/
structure Environment.Alike (first second : Environment) : Prop where
  target : second.target = first.target
  globals : first.globals.Alike second.globals

/-- Entries with different names are found in any order. -/
theorem lookup_eq_of_perm
    {Definition : Type}
    {first second : List (ExpandedName × Definition)}
    (perm : second.Perm first)
    (proper : (first.map Prod.fst).Nodup)
    (name : ExpandedName) :
    second.lookup name = first.lookup name := by
  have properToo := (perm.map Prod.fst).nodup_iff.2 proper
  apply Option.ext
  intro definition
  constructor
  · exact fun declared => lookup_of_mem proper (perm.mem_iff.1 (mem_of_lookup declared))
  · exact fun declared => lookup_of_mem properToo (perm.mem_iff.2 (mem_of_lookup declared))

theorem lookup_map
    {Definition Image : Type}
    (change : Definition → Image)
    (entries : List (ExpandedName × Definition))
    (name : ExpandedName) :
    (entries.map (Prod.map id change)).lookup name = (entries.lookup name).map change := by
  induction entries with
  | nil => rfl
  | cons entry rest inductionHypothesis =>
      rw [List.map_cons, List.lookup_cons, List.lookup_cons, inductionHypothesis, Prod.map_fst, id]
      cases name == entry.1 <;> rfl

/-! ## Portraits -/

/-- What a portrait says of another complex type. -/
def Portrait.retyped (type : ComplexType) (portrait : Portrait) : Portrait :=
  { portrait with type }

section Portraits

variable {first second : Environment} {package : String} {type image : ComplexType}

theorem Environment.Alike.within
    (alike : first.Alike second) :
    first.AlikeWithin .all second where
  target := alike.target
  globals := {
    types := fun _ => alike.globals.types _
    elements := fun _ => alike.globals.elements _
    attributes := fun _ => alike.globals.attributes _ }
  closed := Reach.closed_all _

/-- A part of the content of a complex type contributes the same. -/
theorem Environment.Alike.contribution_eq
    (alike : first.Alike second)
    (item : Item)
    (path : String) :
    item.contribution second package path = item.contribution first package path :=
  alike.within.contribution_eq (Reach.covers_all item) package path

theorem Portrait.fields_retyped
    (portrait : Portrait) :
    (portrait.retyped image).fields = portrait.fields := rfl

theorem Portrait.bases_retyped
    (portrait : Portrait) :
    (portrait.retyped image).bases = portrait.bases := rfl

theorem Portrait.add_retyped
    (portrait : Portrait)
    (contribution : Contribution) :
    (portrait.retyped image).add contribution =
      (portrait.add contribution).map (Portrait.retyped image) := by
  cases contribution with
  | nothing => rfl
  | field field =>
      rw [add, add, fields_retyped]
      split_ifs <;> rfl
  | base name =>
      rw [add, add, withBase, withBase, bases_retyped]
      split_ifs <;> rfl

theorem Portrait.take_retyped
    {item : Item}
    (contributes : ∀ path,
      item.contribution second package path = item.contribution first package path)
    (portrait : Portrait)
    (samePath : image.path = portrait.type.path) :
    (portrait.retyped image).take second package item =
      (portrait.take first package item).map (Portrait.retyped image) := by
  unfold take
  show Option.bind (Except.toOption (item.contribution second package image.path)) _ = _
  rw [contributes, samePath, Option.map_bind]
  exact Option.bind_congr fun contribution _ => portrait.add_retyped contribution

theorem Portrait.foldlM_retyped
    {items : List Item}
    (contribute : ∀ item ∈ items, ∀ path,
      item.contribution second package path = item.contribution first package path)
    (portrait : Portrait)
    (samePath : image.path = portrait.type.path) :
    items.foldlM (Portrait.take second package) (portrait.retyped image) =
      (items.foldlM (Portrait.take first package) portrait).map (Portrait.retyped image) := by
  induction items generalizing portrait with
  | nil => rfl
  | cons item rest inductionHypothesis =>
      obtain ⟨contributes, others⟩ := List.forall_mem_cons.1 contribute
      rw [List.foldlM_cons, List.foldlM_cons, take_retyped contributes portrait samePath]
      cases taken : portrait.take first package item with
      | none => rfl
      | some middle => exact inductionHypothesis others middle (by rw [type_of_take taken, samePath])

/-- Complex types with the same content and the same names around it have portraits that say the
same, if all parts of the content contribute the same. -/
theorem ComplexType.portrait?_eq
    (contribute : ∀ item ∈ contentItems type.spot, ∀ path,
      item.contribution second package path = item.contribution first package path)
    (sameSpot : image.spot = type.spot)
    (samePath : image.path = type.path) :
    image.portrait? second package = (type.portrait? first package).map (Portrait.retyped image) := by
  unfold portrait?
  rw [sameSpot]
  exact Portrait.foldlM_retyped contribute ⟨type, [], []⟩ samePath

end Portraits

/-! ## Places -/

namespace ComplexType

variable {type inner : ComplexType}

/-- The complex type with its place in the declaration at the top that it is in, instead of its place
in the document. -/
def detached : ComplexType → ComplexType
  | .top named place spot => .top named place.tail spot
  | .nested around named place spot => .nested around.detached named place.tail spot

@[simp] theorem spot_detached : type.detached.spot = type.spot := by
  cases type <;> rfl

@[simp] theorem named_detached : type.detached.named = type.named := by
  cases type <;> rfl

@[simp] theorem place_detached : type.detached.place = type.place.tail := by
  cases type <;> rfl

@[simp] theorem around?_detached : type.detached.around? = type.around?.map detached := by
  cases type <;> rfl

@[simp] theorem path_detached : type.detached.path = type.path := by
  induction type with
  | top => rfl
  | nested around named place spot inductionHypothesis =>
      rw [detached, path, path, inductionHypothesis]

theorem within?_detached
    (placed : type.place ≠ [])
    (item : Item) :
    type.detached.within? item = (type.within? item).map detached := by
  unfold within?
  rw [Option.map_map]
  refine Option.map_congr fun found _ => ?_
  obtain ⟨head, rest, place⟩ := List.exists_cons_of_ne_nil placed
  simp [detached, place]

theorem place_ne_nil_of_within?
    {item : Item}
    (isWithin : type.within? item = some inner) :
    inner.place ≠ [] := by
  obtain ⟨_, place⟩ := exists_place_of_within? isWithin
  simp [place]

/-- What is inside a complex type does not depend on where the type is. -/
theorem inside_detached
    (type : ComplexType)
    (placed : type.place ≠ []) :
    type.detached.inside = type.inside.map detached := by
  rw [inside_eq, inside_eq, List.map_flatMap, spot_detached]
  apply List.flatMap_congr
  intro item member
  unfold insideItem
  rw [within?_detached placed]
  -- Places grow at their ends, so that dropping their heads commutes with going inside.
  cases isWithin : type.within? item with
  | none => rfl
  | some outer =>
      rw [Option.map_some, Option.elim_some, Option.elim_some, List.map_cons,
        inside_detached outer (place_ne_nil_of_within? isWithin)]
termination_by sizeOf type.spot.content
decreasing_by exact sizeOf_content_lt_of_within? member isWithin

end ComplexType

/-! ## Documents -/

/-- Whether two documents have the same outermost tag, and the same parts inside it in some order. -/
structure Reordered (first second : Xml.Document) : Prop where
  root : second.root = first.root
  children : second.children.Perm first.children

/-- The elements directly inside the outermost one, wherever they stand in it. -/
def topSpots (document : Xml.Document) : List Spot :=
  document.spot.children.map Prod.snd

theorem topSpots_eq
    (document : Xml.Document) :
    topSpots document = document.children.filterMap (Xml.Node.spot? document.scope) := by
  have positions : document.children = document.spot.content.zipIdx.map Prod.fst :=
    document.spot.content_eq
  unfold topSpots Spot.children
  rw [List.map_filterMap, positions, List.filterMap_map]
  apply List.filterMap_congr
  intro entry _
  show _ = entry.1.spot? document.scope
  cases isSpot : entry.1.spot? document.scope <;> simp [Xml.Document.spot, isSpot]

/-- What is read from the elements directly inside the outermost one, wherever they stand. -/
theorem filterMap_topSpots
    {Result : Type}
    (document : Xml.Document)
    (read : Spot → Option Result) :
    document.spot.children.filterMap (fun child => read child.2) =
      (topSpots document).filterMap read :=
  (List.filterMap_map ..).symm

/-- The complex type of a declaration at the top, without its place. -/
def detachedType? (spot : Spot) : Option ComplexType :=
  (topType? (0, spot)).map ComplexType.detached

theorem detachedType?_eq
    (child : Nat × Spot) :
    (topType? child).map ComplexType.detached = detachedType? child.2 := by
  unfold detachedType? topType?
  split_ifs
  · rfl
  · rw [Option.map_map, Option.map_map]
    rfl
  · rfl

theorem detached_topTypes
    (document : Xml.Document) :
    (topTypes document).map ComplexType.detached = (topSpots document).filterMap detachedType? := by
  unfold topTypes
  rw [List.map_filterMap, ← filterMap_topSpots]
  exact List.filterMap_congr fun child _ => detachedType?_eq child

theorem Binds.place_ne_nil
    {document : Xml.Document}
    {type : ComplexType}
    (binds : Binds document type) :
    type.place ≠ [] := by
  cases binds <;> simp [ComplexType.place]

theorem detached_innerTypes
    (document : Xml.Document) :
    (innerTypes document).map ComplexType.detached =
      ((topTypes document).map ComplexType.detached).flatMap ComplexType.inside := by
  unfold innerTypes
  rw [List.map_flatMap, List.flatMap_map]
  apply List.flatMap_congr
  intro top isTop
  exact (top.inside_detached (mem_topTypes_iff.1 isTop).1.place_ne_nil).symm

namespace Reordered

variable {first second : Xml.Document} {setting : Setting} {options : BindingOptions}

theorem symm
    (reordered : Reordered first second) :
    Reordered second first :=
  ⟨reordered.root.symm, reordered.children.symm⟩

theorem topSpots_perm
    (reordered : Reordered first second) :
    (topSpots second).Perm (topSpots first) := by
  rw [topSpots_eq, topSpots_eq, Xml.Document.scope, Xml.Document.scope, reordered.root]
  exact reordered.children.filterMap _

theorem settingOf_eq
    (reordered : Reordered first second)
    (options : BindingOptions) :
    settingOf options second = settingOf options first := by
  rw [settingOf, settingOf, reordered.root]

/-- The complex types that classes are made for are the same, apart from their places. -/
theorem complexTypes_perm
    (reordered : Reordered first second) :
    ((complexTypes second).map ComplexType.detached).Perm
      ((complexTypes first).map ComplexType.detached) := by
  have topTypes_perm : ((topTypes second).map ComplexType.detached).Perm
      ((topTypes first).map ComplexType.detached) := by
    rw [detached_topTypes, detached_topTypes]
    exact reordered.topSpots_perm.filterMap _
  unfold complexTypes
  rw [List.map_append, List.map_append, detached_innerTypes, detached_innerTypes]
  exact topTypes_perm.append (topTypes_perm.flatMap_right _)

theorem exists_type
    (reordered : Reordered first second)
    {type : ComplexType}
    (member : type ∈ complexTypes first) :
    ∃ image ∈ complexTypes second, image.detached = type.detached :=
  List.mem_map.1 (reordered.complexTypes_perm.mem_iff.2 (List.mem_map_of_mem member))

/-- The same declarations are directly inside the outermost element. -/
theorem exists_child
    (reordered : Reordered first second)
    {child : Nat × Spot}
    (isChild : child ∈ first.spot.children) :
    ∃ other ∈ second.spot.children, other.2 = child.2 :=
  List.mem_map.1 (reordered.topSpots_perm.mem_iff.2 (List.mem_map_of_mem isChild))

/-! ## What is noted -/

/-- The same entries are noted for the declarations. -/
theorem noted_perm
    {Entry : Type}
    (reordered : Reordered first second)
    (noted? : Spot → Option Entry) :
    (second.spot.children.filterMap fun child => noted? child.2).Perm
      (first.spot.children.filterMap fun child => noted? child.2) := by
  rw [filterMap_topSpots, filterMap_topSpots]
  exact reordered.topSpots_perm.filterMap _

theorem types_perm
    (reordered : Reordered first second) :
    ((registryOf setting second).globals.types.map (Prod.map id TypeDefinition.unnumbered)).Perm
      ((registryOf setting first).globals.types.map (Prod.map id TypeDefinition.unnumbered)) := by
  rw [types_registryOf, types_registryOf]
  exact reordered.noted_perm _

theorem elements_perm
    (reordered : Reordered first second) :
    (registryOf setting second).globals.elements.Perm
      (registryOf setting first).globals.elements := by
  rw [elements_registryOf, elements_registryOf]
  exact reordered.noted_perm _

theorem attributes_perm
    (reordered : Reordered first second) :
    (registryOf setting second).globals.attributes.Perm
      (registryOf setting first).globals.attributes := by
  rw [attributes_registryOf, attributes_registryOf]
  exact reordered.noted_perm _

/-- Names that are declared once are declared once in any order. -/
theorem proper
    (reordered : Reordered first second)
    (proper : (registryOf setting first).globals.Proper) :
    (registryOf setting second).globals.Proper where
  types := by
    rw [← map_fst_unnumbered, (reordered.types_perm.map Prod.fst).nodup_iff, map_fst_unnumbered]
    exact proper.types
  elements := (reordered.elements_perm.map Prod.fst).nodup_iff.2 proper.elements
  attributes := (reordered.attributes_perm.map Prod.fst).nodup_iff.2 proper.attributes

/-- Declarations are found under the same names in any order. -/
theorem alike_registryOf
    (reordered : Reordered first second)
    (proper : (registryOf setting first).globals.Proper) :
    (registryOf setting first).globals.Alike (registryOf setting second).globals where
  types name := by
    rw [← lookup_map, ← lookup_map]
    apply lookup_eq_of_perm reordered.types_perm
    rw [map_fst_unnumbered]
    exact proper.types
  elements := lookup_eq_of_perm reordered.elements_perm proper.elements
  attributes := lookup_eq_of_perm reordered.attributes_perm proper.attributes

theorem alike_environmentOf
    (reordered : Reordered first second)
    (proper : (environmentOf options first).globals.Proper) :
    (environmentOf options first).Alike (environmentOf options second) where
  target := congrArg (fun root : Xml.Tag => root.attribute? "targetNamespace") reordered.root
  globals := by
    unfold environmentOf
    rw [reordered.settingOf_eq]
    exact reordered.alike_registryOf proper

theorem portraitIn?_eq
    (reordered : Reordered first second)
    (proper : (environmentOf options first).globals.Proper)
    {type image : ComplexType}
    (alike : image.detached = type.detached) :
    portraitIn? options second image =
      (portraitIn? options first type).map (Portrait.retyped image) := by
  have sameSpot : image.spot = type.spot := by simpa using congrArg ComplexType.spot alike
  have samePath : image.path = type.path := by simpa using congrArg ComplexType.path alike
  unfold portraitIn?
  rw [reordered.settingOf_eq]
  have environments : (environmentOf options first).Alike (environmentOf options second) :=
    reordered.alike_environmentOf proper
  exact ComplexType.portrait?_eq (fun item _ => environments.contribution_eq item) sameSpot samePath

end Reordered

/-! ## Acceptance -/

section Acceptance

variable {first second : Xml.Document} {options : BindingOptions}
  {portraits others : List Portrait}

/-- Portraits can be found for a schema in any order. -/
theorem Reordered.exists_describes
    (reordered : Reordered first second)
    (describes : Describes options first portraits) :
    ∃ others, Describes options second others := by
  refine ⟨(complexTypes second).filterMap (portraitIn? options second), ?_, ?_, ?_, ?_⟩
  · rw [reordered.root]
    exact describes.isSchema
  · intro child isChild
    obtain ⟨other, isOther, same⟩ := reordered.symm.exists_child isChild
    rw [reordered.settingOf_eq, ← same]
    exact describes.registrable other isOther
  · unfold environmentOf
    rw [reordered.settingOf_eq]
    exact reordered.proper describes.proper
  · apply mapM_eq_some_filterMap
    intro image member
    -- The portrait is that of the same complex type in the other document.
    obtain ⟨type, isType, alike⟩ := reordered.symm.exists_type member
    obtain ⟨index, isType⟩ := List.mem_iff_getElem?.1 isType
    obtain ⟨portrait, _, _, described⟩ := describes.exists_portrait isType
    rw [reordered.portraitIn?_eq describes.proper alike.symm, described]
    rfl

/-- Whether the classes with two numbers are for complex types that are the same apart from their
places. -/
def Corresponds (first second : Xml.Document) (id other : ClassId) : Prop :=
  ∃ type image, (complexTypes first)[id.index]? = some type ∧
    (complexTypes second)[other.index]? = some image ∧ image.detached = type.detached

theorem Reordered.exists_corresponds
    (reordered : Reordered first second)
    {id : ClassId}
    (bound : id.index < (complexTypes first).length) :
    ∃ other, Corresponds first second id other := by
  obtain ⟨image, isImage, alike⟩ := reordered.exists_type (List.getElem_mem bound)
  obtain ⟨index, isImage⟩ := List.mem_iff_getElem?.1 isImage
  exact ⟨⟨index⟩, _, image, List.getElem?_eq_getElem bound, isImage, alike⟩

namespace Corresponds

variable {id other : ClassId}

theorem symm
    (corresponds : Corresponds first second id other) :
    Corresponds second first other id := by
  obtain ⟨type, image, isType, isImage, alike⟩ := corresponds
  exact ⟨image, type, isImage, isType, alike.symm⟩

/-- The portraits of both classes say the same. -/
theorem exists_portrait
    (corresponds : Corresponds first second id other)
    (reordered : Reordered first second)
    (describes : Describes options first portraits)
    (describesToo : Describes options second others) :
    ∃ portrait image, portraits[id.index]? = some portrait ∧
      others[other.index]? = some (portrait.retyped image) ∧
      image.detached = portrait.type.detached := by
  obtain ⟨type, image, isType, isImage, alike⟩ := corresponds
  obtain ⟨portrait, isPortrait, rfl, described⟩ := describes.exists_portrait isType
  obtain ⟨otherPortrait, isOther, _, otherDescribed⟩ := describesToo.exists_portrait isImage
  rw [reordered.portraitIn?_eq describes.proper alike, described, Option.map_some,
    Option.some.injEq] at otherDescribed
  exact ⟨portrait, image, isPortrait, otherDescribed ▸ isOther, alike⟩

end Corresponds

theorem getElem?_complexTypes
    {document : Xml.Document}
    {index : Nat}
    {type : ComplexType}
    (isTop : (topTypes document)[index]? = some type) :
    (complexTypes document)[index]? = some type := by
  rw [complexTypes, List.getElem?_append_left (List.getElem?_eq_some_iff.1 isTop).1, isTop]

/-- Names of complex types are declared for the same classes. -/
theorem Reordered.exists_declares
    (reordered : Reordered first second)
    (describes : Describes options second others)
    {id : ClassId}
    {name : ExpandedName}
    (declares : (environmentOf options first).globals.Declares id name) :
    ∃ other, (environmentOf options second).globals.Declares other name ∧
      Corresponds first second id other := by
  obtain ⟨_, declared⟩ := declares
  obtain ⟨child, isChild, isComplex, rfl, _, isTop⟩ := complex_of_mem_types (mem_of_lookup declared)
  obtain ⟨otherChild, isOther, same⟩ := reordered.exists_child isChild
  rw [← same] at isComplex isTop ⊢
  obtain ⟨other, noted, isOtherTop⟩ := mem_types_of_complex isOther isComplex
  rw [← reordered.settingOf_eq options]
  exact ⟨other, ⟨_, lookup_of_mem describes.proper.types noted⟩, _, _, getElem?_complexTypes isTop,
    getElem?_complexTypes isOtherTop, rfl⟩

theorem Describes.types_eq
    (describes : Describes options first portraits) :
    portraits.map Portrait.type = complexTypes first := by
  apply List.ext_getElem?
  intro index
  rw [List.getElem?_map]
  exact describes.typeAt_eq ⟨index⟩

theorem Describes.paths_eq
    (describes : Describes options first portraits) :
    (portraits.map fun portrait => portrait.type.path) =
      ((complexTypes first).map ComplexType.detached).map ComplexType.path := by
  rw [← describes.types_eq, List.map_map, List.map_map]
  apply List.map_congr_left
  intro portrait _
  exact ComplexType.path_detached.symm

/-- Classes that can be together can be together in any order. -/
theorem Reordered.consistent
    (reordered : Reordered first second)
    (describes : Describes options first portraits)
    (describesToo : Describes options second others)
    (consistent : Consistent (environmentOf options first).globals portraits) :
    Consistent (environmentOf options second).globals others := by
  have derives : ∀ name base, DerivesFrom (environmentOf options second).globals others name base →
      DerivesFrom (environmentOf options first).globals portraits name base := by
    rintro name base ⟨other, otherPortrait, declares, isOther, isBase⟩
    obtain ⟨id, isName, corresponds⟩ := reordered.symm.exists_declares describes declares
    obtain ⟨portrait, image, isPortrait, isImage, _⟩ :=
      corresponds.symm.exists_portrait reordered describes describesToo
    rw [isOther, Option.some.injEq] at isImage
    subst isImage
    exact ⟨id, portrait, isName, isPortrait, isBase⟩
  constructor
  case distinct =>
    have perm := reordered.complexTypes_perm.map ComplexType.path
    rw [← describes.paths_eq, ← describesToo.paths_eq] at perm
    exact perm.nodup_iff.2 consistent.distinct
  case acyclic =>
    intro name path
    exact consistent.acyclic name (TransGen.mono derives _ _ path)

/-- A schema that is accepted is accepted in any order. -/
theorem Reordered.accepted
    (reordered : Reordered first second)
    (accepted : ∃ outline, (bindXml options first).1 = .ok outline) :
    ∃ outline, (bindXml options second).1 = .ok outline := by
  obtain ⟨portraits, describes, consistent⟩ := exists_outline_iff.1 accepted
  obtain ⟨others, describesToo⟩ := reordered.exists_describes describes
  exact exists_outline_iff.2 ⟨others, describesToo,
    reordered.consistent describes describesToo consistent⟩

end Acceptance

end Schema
end SchemaBinding
