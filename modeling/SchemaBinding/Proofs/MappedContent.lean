import Mathlib.Tactic.SplitIfs
import SchemaBinding.Proofs.Places

/-!
# The content of complex types

What counts as content of a complex type: the elements in its model groups at any depth, its
attributes and its derivations, together with the content that an extension adds, but not what is
inside a restriction and not what is inside the elements.  The content is described twice, by rules
for what belongs to it, and as a list in document order.  The list is shown to hold what the rules
say, and to be in that order.
-/

namespace SchemaBinding
namespace Schema

open Xml (Place Spot)

/-- What an element is to the complex type that it is content of. -/
inductive Role where
  /-- A model group. -/
  | group
  /-- An element of a model group. -/
  | particle
  /-- An attribute. -/
  | attributeUse
  /-- A derivation by complex content. -/
  | complexBase
  /-- A derivation by simple content. -/
  | simpleBase
  /-- A construct without a binding. -/
  | unsupported
deriving DecidableEq, Repr

/-- A part of the content of a complex type. -/
structure Item where
  /-- The way to it from the complex type. -/
  place : Place
  /-- What it is to the complex type. -/
  role : Role
  /-- The model groups around it within the complex type, the outermost first. -/
  around : List Xml.Tag
  /-- The element that it is. -/
  spot : Spot

/-- The same part, seen from an element further up. -/
def Item.below (above : Place) (item : Item) : Item :=
  { item with place := above ++ item.place }

/-- Whether an element is a model group. -/
def IsGroup (tag : Xml.Tag) : Prop :=
  constructOf? tag ∈ [some "sequence", some "choice", some "all"]

instance (tag : Xml.Tag) : Decidable (IsGroup tag) :=
  inferInstanceAs (Decidable (constructOf? tag ∈ [some "sequence", some "choice", some "all"]))

/-- Whether an element is passed over in silence: one of another language, or one that stands for one
of some constructs. -/
def IsPassedOver (constructs : List String) (tag : Xml.Tag) : Prop :=
  constructOf? tag ∈ none :: constructs.map some

instance (constructs : List String) (tag : Xml.Tag) : Decidable (IsPassedOver constructs tag) :=
  inferInstanceAs (Decidable (constructOf? tag ∈ none :: constructs.map some))

/-- The first derivation in complex or simple content. -/
def firstDerivation? (content : Spot) : Option (Nat × Spot) :=
  first? ["extension", "restriction"] content

/-- The elements whose parts are content of a complex type, with the way to each: the complex type
itself, and the extensions by complex content. -/
inductive Hosts (type : Spot) : Place → Spot → Prop
  /-- The complex type itself. -/
  | itself : Hosts type [] type
  /-- An extension in the content of a host. -/
  | extension {place : Place} {host content derivation : Spot} {index inner : Nat}
      (hosts : Hosts type place host) (child : host.child? index = some content)
      (construct : constructOf? content.tag = some "complexContent")
      (first : firstDerivation? content = some (inner, derivation))
      (extends_base : constructOf? derivation.tag = some "extension") :
      Hosts type (place ++ [index, inner]) derivation

/-- What belongs to the content of a complex type. -/
inductive Mapped (type : Spot) : Item → Prop
  /-- A model group of a host. -/
  | group {place : Place} {host child : Spot} {index : Nat} (hosts : Hosts type place host)
      (isChild : host.child? index = some child) (isGroup : IsGroup child.tag) :
      Mapped type ⟨place ++ [index], .group, [], child⟩
  /-- A model group inside another one. -/
  | innerGroup {place : Place} {around : List Xml.Tag} {group child : Spot} {index : Nat}
      (mapped : Mapped type ⟨place, .group, around, group⟩)
      (isChild : group.child? index = some child) (isGroup : IsGroup child.tag) :
      Mapped type ⟨place ++ [index], .group, around ++ [group.tag], child⟩
  /-- An element of a model group. -/
  | particle {place : Place} {around : List Xml.Tag} {group child : Spot} {index : Nat}
      (mapped : Mapped type ⟨place, .group, around, group⟩)
      (isChild : group.child? index = some child)
      (construct : constructOf? child.tag = some "element") :
      Mapped type ⟨place ++ [index], .particle, around ++ [group.tag], child⟩
  /-- An attribute of a host. -/
  | attributeUse {place : Place} {host child : Spot} {index : Nat} (hosts : Hosts type place host)
      (isChild : host.child? index = some child)
      (construct : constructOf? child.tag = some "attribute") :
      Mapped type ⟨place ++ [index], .attributeUse, [], child⟩
  /-- The derivation that the complex content of a host makes. -/
  | complexBase {place : Place} {host content derivation : Spot} {index inner : Nat}
      (hosts : Hosts type place host) (isChild : host.child? index = some content)
      (construct : constructOf? content.tag = some "complexContent")
      (first : firstDerivation? content = some (inner, derivation)) :
      Mapped type ⟨place ++ [index, inner], .complexBase, [], derivation⟩
  /-- The derivation that the simple content of a host makes. -/
  | simpleBase {place : Place} {host content derivation : Spot} {index inner : Nat}
      (hosts : Hosts type place host) (isChild : host.child? index = some content)
      (construct : constructOf? content.tag = some "simpleContent")
      (first : firstDerivation? content = some (inner, derivation)) :
      Mapped type ⟨place ++ [index, inner], .simpleBase, [], derivation⟩
  /-- An attribute that an extension by simple content adds. -/
  | addedAttribute {place : Place} {derivation child : Spot} {index : Nat}
      (mapped : Mapped type ⟨place, .simpleBase, [], derivation⟩)
      (extends_base : constructOf? derivation.tag = some "extension")
      (isChild : derivation.child? index = some child)
      (construct : constructOf? child.tag = some "attribute") :
      Mapped type ⟨place ++ [index], .attributeUse, [], child⟩

/-! ## The content as a list -/

mutual

/-- The parts of a model group, in document order; `around` ends with the group itself. -/
def groupItems (around : List Xml.Tag) (group : Spot) : List Item :=
  group.children.attach.flatMap fun ⟨child, _⟩ => groupChildItems around child
termination_by (sizeOf group.content, 0)
decreasing_by
  exact .left _ _ (Spot.sizeOf_content_lt ‹child ∈ group.children›)

/-- What an element inside a model group is to the complex type, and what is inside it. -/
def groupChildItems (around : List Xml.Tag) (child : Nat × Spot) : List Item :=
  if constructOf? child.2.tag = some "element" then [⟨[child.1], .particle, around, child.2⟩]
  else if IsGroup child.2.tag then
    ⟨[child.1], .group, around, child.2⟩ ::
      (groupItems (around ++ [child.2.tag]) child.2).map (Item.below [child.1])
  else if IsPassedOver ["annotation"] child.2.tag then []
  else [⟨[child.1], .unsupported, around, child.2⟩]
termination_by (sizeOf child.2.content, 1)

end

/-- What an element inside an extension by simple content is to the complex type. -/
def addedChildItems (child : Nat × Spot) : List Item :=
  if constructOf? child.2.tag = some "attribute" then [⟨[child.1], .attributeUse, [], child.2⟩]
  else if IsPassedOver ["annotation", "assert"] child.2.tag then []
  else [⟨[child.1], .unsupported, [], child.2⟩]

/-- The parts of an extension by simple content, in document order. -/
def addedItems (derivation : Spot) : List Item :=
  derivation.children.flatMap addedChildItems

/-- The first derivation in complex or simple content, with what an extension adds. -/
def derivationItems (role : Role) (added : Spot → List Item) (content : Spot) : List Item :=
  (firstDerivation? content).toList.flatMap fun (index, derivation) =>
    ⟨[index], role, [], derivation⟩ ::
      if constructOf? derivation.tag = some "extension" then
        (added derivation).map (Item.below [index])
      else []

mutual

/-- The parts of a complex type or of an extension by complex content, in document order. -/
def contentItems (host : Spot) : List Item :=
  host.children.attach.flatMap fun ⟨child, _⟩ => contentChildItems child
termination_by (sizeOf host.content, 0)
decreasing_by
  exact .left _ _ (Spot.sizeOf_content_lt ‹child ∈ host.children›)

/-- What an element directly inside a host is to the complex type, and what is inside it. -/
def contentChildItems (child : Nat × Spot) : List Item :=
  if IsGroup child.2.tag then
    ⟨[child.1], .group, [], child.2⟩ ::
      (groupItems [child.2.tag] child.2).map (Item.below [child.1])
  else if constructOf? child.2.tag = some "attribute" then [⟨[child.1], .attributeUse, [], child.2⟩]
  else if constructOf? child.2.tag = some "complexContent" then
    (complexItems child.2).map (Item.below [child.1])
  else if constructOf? child.2.tag = some "simpleContent" then
    (derivationItems .simpleBase addedItems child.2).map (Item.below [child.1])
  else if IsPassedOver ["annotation", "assert", "openContent"] child.2.tag then []
  else [⟨[child.1], .unsupported, [], child.2⟩]
termination_by (sizeOf child.2.content, 1)

/-- The derivation that complex content makes, with what it adds. -/
def complexItems (content : Spot) : List Item :=
  match _ : firstDerivation? content with
  | none => []
  | some (inner, derivation) =>
      ⟨[inner], .complexBase, [], derivation⟩ ::
        if constructOf? derivation.tag = some "extension" then
          (contentItems derivation).map (Item.below [inner])
        else []
termination_by (sizeOf content.content, 0)
decreasing_by
  exact .left _ _ (Spot.sizeOf_content_lt
    (mem_children_of_first? ‹firstDerivation? content = some (inner, derivation)›))

end

theorem groupItems_eq
    (around : List Xml.Tag)
    (group : Spot) :
    groupItems around group = group.children.flatMap (groupChildItems around) := by
  rw [groupItems]
  simp only [List.flatMap_subtype, List.unattach_attach]

theorem contentItems_eq
    (host : Spot) :
    contentItems host = host.children.flatMap contentChildItems := by
  rw [contentItems]
  simp only [List.flatMap_subtype, List.unattach_attach]

theorem complexItems_eq
    (content : Spot) :
    complexItems content = derivationItems .complexBase contentItems content := by
  rw [complexItems, derivationItems]
  split
  next none => simp [none]
  next index derivation found => simp [found]

/-! ## The order of the list -/

/-- Whether a part comes before another one, and as a whole if it is an element of a group. -/
def Item.Before (first second : Item) : Prop :=
  first.place < second.place ∧ (first.role = .particle → ¬first.place <+: second.place)

namespace Item.Before

variable {first second : Item}

theorem below
    (before : first.Before second)
    (above : Place) :
    (first.below above).Before (second.below above) := by
  refine ⟨Xml.Place.append_lt_append_left above before.1, fun isParticle isPrefix => ?_⟩
  exact before.2 isParticle ((List.prefix_append_right_inj above).1 isPrefix)

theorem of_position_lt
    {left right : Nat}
    {leftRest rightRest : Place}
    (smaller : left < right)
    (firstPlace : first.place = left :: leftRest)
    (secondPlace : second.place = right :: rightRest) :
    first.Before second := by
  unfold Before
  rw [firstPlace, secondPlace]
  refine ⟨List.cons_lt_cons_iff.2 (.inl smaller), fun _ isPrefix => ?_⟩
  exact Nat.ne_of_lt smaller (List.cons_prefix_cons.1 isPrefix).1

end Item.Before

/-- Whether the ways to some parts begin with a given position. -/
def StartAt (index : Nat) (items : List Item) : Prop :=
  ∀ item ∈ items, ∃ rest, item.place = index :: rest

namespace StartAt

variable {index : Nat}

theorem nil : StartAt index [] :=
  fun _ member => absurd member List.not_mem_nil

theorem below
    (items : List Item) :
    StartAt index (items.map (Item.below [index])) :=
  List.forall_mem_map.2 fun item _ => ⟨item.place, rfl⟩

theorem cons
    {item : Item}
    {rest : List Item}
    (place : item.place = [index])
    (startAt : StartAt index rest) :
    StartAt index (item :: rest) :=
  List.forall_mem_cons.2 ⟨⟨[], place⟩, startAt⟩

end StartAt

theorem startAt_groupChildItems
    (around : List Xml.Tag)
    (child : Nat × Spot) :
    StartAt child.1 (groupChildItems around child) := by
  rw [groupChildItems]
  split_ifs
  · exact .cons rfl .nil
  · exact .cons rfl (.below _)
  · exact .nil
  · exact .cons rfl .nil

theorem startAt_addedChildItems
    (child : Nat × Spot) :
    StartAt child.1 (addedChildItems child) := by
  rw [addedChildItems]
  split_ifs
  · exact .cons rfl .nil
  · exact .nil
  · exact .cons rfl .nil

theorem startAt_contentChildItems
    (child : Nat × Spot) :
    StartAt child.1 (contentChildItems child) := by
  rw [contentChildItems]
  split_ifs
  · exact .cons rfl (.below _)
  · exact .cons rfl .nil
  · exact .below _
  · exact .below _
  · exact .nil
  · exact .cons rfl .nil

section Children

variable {items : Nat × Spot → List Item}

/-- What is inside an element is in order if what is inside each of its parts is. -/
theorem sorted_children
    (spot : Spot)
    (startAt : ∀ child, StartAt child.1 (items child))
    (each : ∀ child ∈ spot.children, (items child).Pairwise Item.Before) :
    (spot.children.flatMap items).Pairwise Item.Before := by
  rw [List.pairwise_flatMap]
  refine ⟨each, List.Pairwise.imp ?_ spot.children_sorted⟩
  intro left right smaller first isFirst second isSecond
  obtain ⟨_, firstPlace⟩ := startAt left first isFirst
  obtain ⟨_, secondPlace⟩ := startAt right second isSecond
  exact .of_position_lt smaller firstPlace secondPlace

theorem place_ne_nil_of_mem_children
    (spot : Spot)
    (startAt : ∀ child, StartAt child.1 (items child)) :
    ∀ item ∈ spot.children.flatMap items, item.place ≠ [] := by
  intro item member
  obtain ⟨child, _, member⟩ := List.mem_flatMap.1 member
  obtain ⟨rest, place⟩ := startAt child item member
  rw [place]
  exact List.cons_ne_nil _ _

end Children

/-- A part that is no element of a group comes before all that is inside it. -/
theorem sorted_cons_below
    {item : Item}
    {inner : List Item}
    (container : item.role ≠ .particle)
    (inside : ∀ further ∈ inner, further.place ≠ [])
    (sorted : inner.Pairwise Item.Before) :
    (item :: inner.map (Item.below item.place)).Pairwise Item.Before := by
  rw [List.pairwise_cons, List.forall_mem_map, List.pairwise_map]
  refine ⟨fun further isFurther => ?_, sorted.imp fun before => before.below _⟩
  exact ⟨Xml.Place.lt_append _ (inside further isFurther),
    fun isParticle => absurd isParticle container⟩

theorem place_ne_nil_of_mem_groupItems
    (around : List Xml.Tag)
    (group : Spot) :
    ∀ item ∈ groupItems around group, item.place ≠ [] := by
  rw [groupItems_eq]
  exact place_ne_nil_of_mem_children group (startAt_groupChildItems around)

theorem place_ne_nil_of_mem_contentItems
    (host : Spot) :
    ∀ item ∈ contentItems host, item.place ≠ [] := by
  rw [contentItems_eq]
  exact place_ne_nil_of_mem_children host startAt_contentChildItems

theorem groupItems_sorted
    (around : List Xml.Tag)
    (group : Spot) :
    (groupItems around group).Pairwise Item.Before := by
  rw [groupItems_eq]
  apply sorted_children group (startAt_groupChildItems around)
  intro child isChild
  rw [groupChildItems]
  split_ifs
  · exact List.pairwise_singleton _ _
  · exact sorted_cons_below nofun (place_ne_nil_of_mem_groupItems _ _)
      (groupItems_sorted (around ++ [child.2.tag]) child.2)
  · exact .nil
  · exact List.pairwise_singleton _ _
termination_by sizeOf group.content
decreasing_by exact Spot.sizeOf_content_lt isChild

theorem addedItems_sorted
    (derivation : Spot) :
    (addedItems derivation).Pairwise Item.Before := by
  apply sorted_children derivation startAt_addedChildItems
  intro child _
  rw [addedChildItems]
  split_ifs
  · exact List.pairwise_singleton _ _
  · exact .nil
  · exact List.pairwise_singleton _ _

theorem derivationItems_sorted
    {role : Role}
    {added : Spot → List Item}
    {content : Spot}
    (container : role ≠ .particle)
    (inside : ∀ derivation, ∀ item ∈ added derivation, item.place ≠ [])
    (sorted : ∀ derivation ∈ firstDerivation? content,
      (added derivation.2).Pairwise Item.Before) :
    (derivationItems role added content).Pairwise Item.Before := by
  rw [derivationItems]
  cases found : firstDerivation? content with
  | none => exact .nil
  | some derivation =>
      simp only [Option.toList_some, List.flatMap_cons, List.flatMap_nil, List.append_nil]
      split_ifs
      · exact sorted_cons_below container (inside _) (sorted derivation found)
      · exact List.pairwise_singleton _ _

/-- The content of a complex type is listed in document order. -/
theorem contentItems_sorted
    (host : Spot) :
    (contentItems host).Pairwise Item.Before := by
  have map_below : ∀ {items : List Item} (above : Place), items.Pairwise Item.Before →
      (items.map (Item.below above)).Pairwise Item.Before := fun above sorted =>
    List.pairwise_map.2 (sorted.imp fun before => before.below above)
  rw [contentItems_eq]
  apply sorted_children host startAt_contentChildItems
  intro child isChild
  rw [contentChildItems]
  split_ifs
  · exact sorted_cons_below nofun (place_ne_nil_of_mem_groupItems _ _) (groupItems_sorted _ _)
  · exact List.pairwise_singleton _ _
  · rw [complexItems_eq]
    refine map_below _ (derivationItems_sorted nofun place_ne_nil_of_mem_contentItems ?_)
    intro derivation found
    exact contentItems_sorted derivation.2
  · refine map_below _ (derivationItems_sorted nofun ?_ fun _ _ => addedItems_sorted _)
    exact fun derivation => place_ne_nil_of_mem_children derivation startAt_addedChildItems
  · exact .nil
  · exact List.pairwise_singleton _ _
termination_by sizeOf host.content
decreasing_by
  exact Nat.lt_trans (Spot.sizeOf_content_lt (mem_children_of_first? found))
    (Spot.sizeOf_content_lt isChild)

/-! ## The list and the rules -/

variable {type : Spot}

theorem Item.below_append
    (item : Item)
    (first second : Place) :
    (item.below second).below first = item.below (first ++ second) := by
  simp [below]

/-- What is listed inside a model group belongs to the content that the group belongs to. -/
theorem mapped_of_mem_groupItems
    {place : Place}
    {around : List Xml.Tag}
    {group : Spot}
    (mapped : Mapped type ⟨place, .group, around, group⟩)
    {item : Item}
    (member : item ∈ groupItems (around ++ [group.tag]) group)
    (supported : item.role ≠ .unsupported) :
    Mapped type (item.below place) := by
  rw [groupItems_eq] at member
  obtain ⟨⟨index, child⟩, listed, member⟩ := List.mem_flatMap.1 member
  have isChild := Spot.mem_children.1 listed
  rw [groupChildItems] at member
  split_ifs at member with isElement isGroup ignored
  · rw [List.mem_singleton] at member
    exact member ▸ .particle mapped isChild isElement
  · have inner := Mapped.innerGroup mapped isChild isGroup
    rcases List.mem_cons.1 member with rfl | deeper
    · exact inner
    · obtain ⟨further, isFurther, rfl⟩ := List.mem_map.1 deeper
      rw [Item.below_append]
      exact mapped_of_mem_groupItems inner isFurther supported
  · cases member
  · rw [List.mem_singleton] at member
    exact absurd (member ▸ rfl) supported
termination_by sizeOf group.content
decreasing_by exact Spot.sizeOf_content_lt listed

/-- What is listed in an extension by simple content belongs to the content of the complex type. -/
theorem mapped_of_mem_addedItems
    {place : Place}
    {derivation : Spot}
    (mapped : Mapped type ⟨place, .simpleBase, [], derivation⟩)
    (extends_base : constructOf? derivation.tag = some "extension")
    {item : Item}
    (member : item ∈ addedItems derivation)
    (supported : item.role ≠ .unsupported) :
    Mapped type (item.below place) := by
  obtain ⟨⟨index, child⟩, listed, member⟩ := List.mem_flatMap.1 member
  have isChild := Spot.mem_children.1 listed
  rw [addedChildItems] at member
  split_ifs at member with isAttribute ignored
  · rw [List.mem_singleton] at member
    exact member ▸ .addedAttribute mapped extends_base isChild isAttribute
  · cases member
  · rw [List.mem_singleton] at member
    exact absurd (member ▸ rfl) supported

/-- A part of a derivation is the derivation itself or something that an extension adds. -/
theorem mem_derivationItems
    {role : Role}
    {added : Spot → List Item}
    {content : Spot}
    {item : Item} :
    item ∈ derivationItems role added content ↔
      ∃ index derivation, firstDerivation? content = some (index, derivation) ∧
        (item = ⟨[index], role, [], derivation⟩ ∨
          constructOf? derivation.tag = some "extension" ∧
            ∃ further ∈ added derivation, item = further.below [index]) := by
  simp only [derivationItems, List.mem_flatMap, Option.mem_toList, Prod.exists, List.mem_cons]
  refine exists_congr fun index => exists_congr fun derivation => and_congr_right fun _ => ?_
  apply or_congr_right
  split_ifs with extends_base
  · simp only [extends_base, true_and, List.mem_map]
    exact exists_congr fun further => and_congr_right fun _ => eq_comm
  · simp [extends_base]

/-- What is listed belongs to the content. -/
theorem mapped_of_mem_contentItems
    {place : Place}
    {host : Spot}
    (hosts : Hosts type place host)
    {item : Item}
    (member : item ∈ contentItems host)
    (supported : item.role ≠ .unsupported) :
    Mapped type (item.below place) := by
  rw [contentItems_eq] at member
  obtain ⟨⟨index, child⟩, listed, member⟩ := List.mem_flatMap.1 member
  have isChild := Spot.mem_children.1 listed
  rw [contentChildItems] at member
  split_ifs at member with isGroup isAttribute isComplex isSimple ignored
  · have group := Mapped.group hosts isChild isGroup
    rcases List.mem_cons.1 member with rfl | deeper
    · exact group
    · obtain ⟨further, isFurther, rfl⟩ := List.mem_map.1 deeper
      rw [Item.below_append]
      exact mapped_of_mem_groupItems group isFurther supported
  · rw [List.mem_singleton] at member
    exact member ▸ .attributeUse hosts isChild isAttribute
  · obtain ⟨part, isPart, rfl⟩ := List.mem_map.1 member
    rw [complexItems_eq, mem_derivationItems] at isPart
    obtain ⟨inner, derivation, found, rfl | ⟨extends_base, further, isFurther, rfl⟩⟩ := isPart
    · exact .complexBase hosts isChild isComplex found
    · rw [Item.below_append, Item.below_append, List.append_assoc]
      have extension := Hosts.extension hosts isChild isComplex found extends_base
      exact mapped_of_mem_contentItems extension isFurther supported
  · obtain ⟨part, isPart, rfl⟩ := List.mem_map.1 member
    rw [mem_derivationItems] at isPart
    obtain ⟨inner, derivation, found, rfl | ⟨extends_base, further, isFurther, rfl⟩⟩ := isPart
    · exact .simpleBase hosts isChild isSimple found
    · rw [Item.below_append, Item.below_append, List.append_assoc]
      have base := Mapped.simpleBase hosts isChild isSimple found
      exact mapped_of_mem_addedItems base extends_base isFurther supported
  · cases member
  · rw [List.mem_singleton] at member
    exact absurd (member ▸ rfl) supported
termination_by sizeOf host.content
decreasing_by
  exact Nat.lt_trans (Spot.sizeOf_content_lt (mem_children_of_first? found))
    (Spot.sizeOf_content_lt listed)

/-- What is listed inside a part: the parts of a model group, and what an extension by simple content
adds. -/
def Item.inner (item : Item) : List Item :=
  match item.role with
  | .group => groupItems (item.around ++ [item.spot.tag]) item.spot
  | .simpleBase =>
      if constructOf? item.spot.tag = some "extension" then addedItems item.spot else []
  | _ => []

/-- Whether a list has a part and all that is listed inside it. -/
def Lists (items : List Item) (item : Item) : Prop :=
  item ∈ items ∧ ∀ further ∈ item.inner, further.below item.place ∈ items

theorem lists_child_of_group
    {items : List Item}
    {place : Place}
    {around : List Xml.Tag}
    {group child : Spot}
    {index : Nat}
    (lists : Lists items ⟨place, .group, around, group⟩)
    (isChild : group.child? index = some child)
    (isGroup : IsGroup child.tag) :
    Lists items ⟨place ++ [index], .group, around ++ [group.tag], child⟩ := by
  have notElement : constructOf? child.tag ≠ some "element" := by
    intro isElement
    rw [IsGroup, isElement] at isGroup
    exact absurd isGroup (by decide)
  have inside : ∀ item ∈ groupChildItems (around ++ [group.tag]) (index, child),
      item.below place ∈ items := by
    intro item member
    apply lists.2 item
    rw [Item.inner, groupItems_eq]
    exact List.mem_flatMap_of_mem (Spot.mem_children.2 isChild) member
  rw [groupChildItems, if_neg notElement, if_pos isGroup, List.forall_mem_cons,
    List.forall_mem_map] at inside
  refine ⟨inside.1, fun further isFurther => ?_⟩
  rw [← Item.below_append]
  exact inside.2 further isFurther

section Constructs

variable {child : Nat × Spot}

theorem contentChildItems_of_group
    (isGroup : IsGroup child.2.tag) :
    contentChildItems child =
      ⟨[child.1], .group, [], child.2⟩ ::
        (groupItems [child.2.tag] child.2).map (Item.below [child.1]) := by
  rw [contentChildItems, if_pos isGroup]

theorem contentChildItems_of_attribute
    (construct : constructOf? child.2.tag = some "attribute") :
    contentChildItems child = [⟨[child.1], .attributeUse, [], child.2⟩] := by
  have notGroup : ¬IsGroup child.2.tag := by
    rw [IsGroup, construct]
    decide
  rw [contentChildItems, if_neg notGroup, if_pos construct]

theorem contentChildItems_of_complexContent
    (construct : constructOf? child.2.tag = some "complexContent") :
    contentChildItems child =
      (derivationItems .complexBase contentItems child.2).map (Item.below [child.1]) := by
  have notGroup : ¬IsGroup child.2.tag := by
    rw [IsGroup, construct]
    decide
  rw [contentChildItems, if_neg notGroup, if_neg (by rw [construct]; decide), if_pos construct,
    complexItems_eq]

theorem contentChildItems_of_simpleContent
    (construct : constructOf? child.2.tag = some "simpleContent") :
    contentChildItems child =
      (derivationItems .simpleBase addedItems child.2).map (Item.below [child.1]) := by
  have notGroup : ¬IsGroup child.2.tag := by
    rw [IsGroup, construct]
    decide
  rw [contentChildItems, if_neg notGroup, if_neg (by rw [construct]; decide),
    if_neg (by rw [construct]; decide), if_pos construct]

end Constructs

theorem mem_contentItems_of_child
    {host child : Spot}
    {index : Nat}
    {item : Item}
    (isChild : host.child? index = some child)
    (member : item ∈ contentChildItems (index, child)) :
    item ∈ contentItems host := by
  rw [contentItems_eq]
  exact List.mem_flatMap_of_mem (Spot.mem_children.2 isChild) member

/-- A host is listed with its content. -/
theorem below_mem_contentItems_of_hosts
    {place : Place}
    {host : Spot}
    (hosts : Hosts type place host) :
    ∀ item ∈ contentItems host, item.below place ∈ contentItems type := by
  induction hosts with
  | itself => exact fun item member => member
  | @extension place host content derivation index inner hosts isChild isComplex found extends_base
      inductionHypothesis =>
      intro item member
      have inside : (item.below [inner]).below [index] ∈ contentItems host := by
        apply mem_contentItems_of_child isChild
        rw [contentChildItems_of_complexContent isComplex]
        apply List.mem_map_of_mem
        exact mem_derivationItems.2 ⟨inner, derivation, found, .inr ⟨extends_base, item, member, rfl⟩⟩
      have listed := inductionHypothesis _ inside
      rw [Item.below_append, Item.below_append, List.append_assoc] at listed
      exact listed

/-- What belongs to the content is listed. -/
theorem lists_of_mapped
    {item : Item}
    (mapped : Mapped type item) :
    Lists (contentItems type) item := by
  have ofHost : ∀ {place host child index}, Hosts type place host →
      host.child? index = some child →
        ∀ item ∈ contentChildItems (index, child), item.below place ∈ contentItems type :=
    fun hosts isChild item member =>
      below_mem_contentItems_of_hosts hosts item (mem_contentItems_of_child isChild member)
  have alone : ∀ {item : Item}, item ∈ contentItems type → item.inner = [] →
      Lists (contentItems type) item := by
    intro item member nothing
    refine ⟨member, fun further isFurther => ?_⟩
    rw [nothing] at isFurther
    cases isFurther
  induction mapped with
  | @group place host child index hosts isChild isGroup =>
      have inside := ofHost hosts isChild
      rw [contentChildItems_of_group isGroup, List.forall_mem_cons, List.forall_mem_map] at inside
      refine ⟨inside.1, fun further isFurther => ?_⟩
      rw [← Item.below_append]
      exact inside.2 further isFurther
  | innerGroup mapped isChild isGroup inductionHypothesis =>
      exact lists_child_of_group inductionHypothesis isChild isGroup
  | @particle place around group child index mapped isChild isElement inductionHypothesis =>
      refine alone ?_ rfl
      apply inductionHypothesis.2 ⟨[index], .particle, around ++ [group.tag], child⟩
      rw [Item.inner, groupItems_eq]
      refine List.mem_flatMap_of_mem (Spot.mem_children.2 isChild) ?_
      rw [groupChildItems, if_pos isElement]
      exact List.mem_cons_self
  | attributeUse hosts isChild isAttribute =>
      refine alone ?_ rfl
      apply ofHost hosts isChild ⟨_, .attributeUse, [], _⟩
      rw [contentChildItems_of_attribute isAttribute]
      exact List.mem_cons_self
  | @complexBase place host content derivation index inner hosts isChild isComplex found =>
      refine alone ?_ rfl
      have inside := ofHost hosts isChild
      rw [contentChildItems_of_complexContent isComplex, List.forall_mem_map] at inside
      exact inside ⟨[inner], .complexBase, [], derivation⟩
        (mem_derivationItems.2 ⟨inner, derivation, found, .inl rfl⟩)
  | @simpleBase place host content derivation index inner hosts isChild isSimple found =>
      have inside := ofHost hosts isChild
      rw [contentChildItems_of_simpleContent isSimple, List.forall_mem_map] at inside
      refine ⟨?_, fun further isFurther => ?_⟩
      · exact inside ⟨[inner], .simpleBase, [], derivation⟩
          (mem_derivationItems.2 ⟨inner, derivation, found, .inl rfl⟩)
      · dsimp only [Item.inner] at isFurther
        split_ifs at isFurther with extends_base
        · have listed := inside (further.below [inner])
            (mem_derivationItems.2
              ⟨inner, derivation, found, .inr ⟨extends_base, further, isFurther, rfl⟩⟩)
          rw [Item.below_append, Item.below_append, List.append_assoc] at listed
          exact listed
        · cases isFurther
  | @addedAttribute place derivation child index mapped extends_base isChild isAttribute
      inductionHypothesis =>
      refine alone ?_ rfl
      apply inductionHypothesis.2 ⟨[index], .attributeUse, [], child⟩
      dsimp only [Item.inner]
      rw [if_pos extends_base]
      refine List.mem_flatMap_of_mem (Spot.mem_children.2 isChild) ?_
      rw [addedChildItems, if_pos isAttribute]
      exact List.mem_cons_self

/-- The list holds what belongs to the content, and constructs without a binding. -/
theorem mem_contentItems_iff
    {item : Item}
    (supported : item.role ≠ .unsupported) :
    item ∈ contentItems type ↔ Mapped type item := by
  constructor
  · intro member
    have mapped := mapped_of_mem_contentItems .itself member supported
    rw [Item.below, List.nil_append] at mapped
    exact mapped
  · exact fun mapped => (lists_of_mapped mapped).1

/-! ## Where the parts are -/

theorem descend?_derivation
    {place : Place}
    {host content derivation : Spot}
    {index inner : Nat}
    (found : type.descend? place = some host)
    (isChild : host.child? index = some content)
    (first : firstDerivation? content = some (inner, derivation)) :
    type.descend? (place ++ [index, inner]) = some derivation := by
  have isDerivation := Spot.mem_children.1 (mem_children_of_first? first)
  have located := Spot.descend?_concat (Spot.descend?_concat found isChild) isDerivation
  rw [List.append_assoc] at located
  exact located

theorem Hosts.descend?
    {place : Place}
    {host : Spot}
    (hosts : Hosts type place host) :
    type.descend? place = some host := by
  induction hosts with
  | itself => rfl
  | extension hosts isChild construct first extends_base inductionHypothesis =>
      exact descend?_derivation inductionHypothesis isChild first

/-- A part of the content is where its place says. -/
theorem Mapped.descend?
    {item : Item}
    (mapped : Mapped type item) :
    type.descend? item.place = some item.spot := by
  induction mapped with
  | group hosts isChild | attributeUse hosts isChild =>
      exact Spot.descend?_concat hosts.descend? isChild
  | innerGroup mapped isChild isGroup inductionHypothesis
  | particle mapped isChild isElement inductionHypothesis =>
      exact Spot.descend?_concat inductionHypothesis isChild
  | addedAttribute mapped extends_base isChild isAttribute inductionHypothesis =>
      exact Spot.descend?_concat inductionHypothesis isChild
  | complexBase hosts isChild construct first | simpleBase hosts isChild construct first =>
      exact descend?_derivation hosts.descend? isChild first

/-- The way to an element of a group leads through the group. -/
theorem Mapped.two_le_length
    {item : Item}
    (mapped : Mapped type item)
    (isParticle : item.role = .particle) :
    2 ≤ item.place.length := by
  cases mapped with
  | @particle place around group child index mapped isChild isElement =>
      have supported : Role.group ≠ .unsupported := by decide
      have inside : place ≠ [] :=
        place_ne_nil_of_mem_contentItems type _ ((mem_contentItems_iff supported).2 mapped)
      have atLeast := List.length_pos_iff.2 inside
      rw [List.length_append, List.length_singleton]
      omega
  | group | innerGroup | attributeUse | complexBase | simpleBase | addedAttribute => cases isParticle

end Schema
end SchemaBinding
