import SchemaBinding.Proofs.Flattening

/-!
# Bound complex types

Which complex types of a schema a class is made for: those at the top, the first one in an element
at the top, and the first one in an element of the content of a bound type, if the element has no
other type.  They are described by rules, and listed in the order of their classes: first those at
the top, then all others, both in document order.
-/

namespace SchemaBinding
namespace Schema

open Xml (Place Spot)

/-- The name that a declaration gives itself. -/
def nameOf (tag : Xml.Tag) : String :=
  (tag.attribute? "name").getD ""

/-- A complex type in a schema: the declaration that names it, its place, and the complex type whose
content the declaration belongs to, if it is not at the top. -/
inductive ComplexType where
  /-- A complex type of a declaration at the top. -/
  | top (named : Xml.Tag) (place : Place) (spot : Spot)
  /-- A complex type of an element in the content of another one. -/
  | nested (around : ComplexType) (named : Xml.Tag) (place : Place) (spot : Spot)

namespace ComplexType

/-- The declaration that names the complex type. -/
def named : ComplexType → Xml.Tag
  | .top named _ _ => named
  | .nested _ named _ _ => named

/-- Where the complex type is in the document. -/
def place : ComplexType → Place
  | .top _ place _ => place
  | .nested _ _ place _ => place

/-- The complex type itself. -/
def spot : ComplexType → Spot
  | .top _ _ spot => spot
  | .nested _ _ _ spot => spot

/-- The complex type directly around it. -/
def around? : ComplexType → Option ComplexType
  | .top _ _ _ => none
  | .nested around _ _ _ => some around

/-- The names of the classes for the complex types around it and for itself, joined by dots. -/
def path : ComplexType → String
  | .top named _ _ => className (nameOf named)
  | .nested around named _ _ => around.path ++ "." ++ className (nameOf named)

/-- The order of classes: those at the top come first, then the nested ones; both follow the order of
the document. -/
def Precedes (first second : ComplexType) : Prop :=
  (first.around? = none ∧ second.around?.isSome) ∨
    (first.around?.isSome = second.around?.isSome ∧ first.place < second.place)

end ComplexType

/-- The complex types that classes are made for. -/
inductive Binds (document : Xml.Document) : ComplexType → Prop
  /-- A complex type at the top. -/
  | complexType {index : Nat} {spot : Spot} (isChild : document.spot.child? index = some spot)
      (construct : constructOf? spot.tag = some "complexType") :
      Binds document (.top spot.tag [index] spot)
  /-- The first complex type in an element at the top. -/
  | element {index inner : Nat} {element spot : Spot}
      (isChild : document.spot.child? index = some element)
      (construct : constructOf? element.tag = some "element")
      (first : firstComplexType? element = some (inner, spot)) :
      Binds document (.top element.tag [index, inner] spot)
  /-- The first complex type in an element of the content of a bound one. -/
  | nested {type : ComplexType} {item : Item} {inner : Nat} {spot : Spot}
      (binds : Binds document type) (mapped : Mapped type.spot item)
      (isParticle : item.role = .particle)
      (noReference : item.spot.tag.attribute? "ref" = none)
      (noType : item.spot.tag.attribute? "type" = none)
      (first : firstComplexType? item.spot = some (inner, spot)) :
      Binds document (.nested type item.spot.tag (type.place ++ item.place ++ [inner]) spot)

/-! ## The list -/

/-- The anonymous complex type of an element in a model group, with its position. -/
def Item.anonymous? (item : Item) : Option (Nat × Spot) :=
  if item.role = .particle ∧ item.spot.tag.attribute? "ref" = none ∧
      item.spot.tag.attribute? "type" = none then
    firstComplexType? item.spot
  else none

theorem Item.anonymous?_eq_some_iff
    {item : Item}
    {found : Nat × Spot} :
    item.anonymous? = some found ↔
      item.role = .particle ∧ item.spot.tag.attribute? "ref" = none ∧
        item.spot.tag.attribute? "type" = none ∧ firstComplexType? item.spot = some found := by
  unfold anonymous?
  split_ifs with isAnonymous
  · simp [isAnonymous]
  · constructor
    · exact nofun
    · rintro ⟨isParticle, noReference, noType, _⟩
      exact absurd ⟨isParticle, noReference, noType⟩ isAnonymous

namespace ComplexType

/-- The complex type of an element in the content of another one. -/
def within? (type : ComplexType) (item : Item) : Option ComplexType :=
  item.anonymous?.map fun (inner, spot) =>
    .nested type item.spot.tag (type.place ++ item.place ++ [inner]) spot

variable {type inner : ComplexType} {item : Item}

theorem within?_eq_some_iff :
    type.within? item = some inner ↔
      ∃ index spot, item.anonymous? = some (index, spot) ∧
        .nested type item.spot.tag (type.place ++ item.place ++ [index]) spot = inner := by
  simp only [within?, Option.map_eq_some_iff, Prod.exists]

theorem mapped_of_within?
    (member : item ∈ contentItems type.spot)
    (isWithin : type.within? item = some inner) :
    Mapped type.spot item := by
  obtain ⟨_, _, isAnonymous, _⟩ := within?_eq_some_iff.1 isWithin
  obtain ⟨isParticle, _⟩ := Item.anonymous?_eq_some_iff.1 isAnonymous
  have supported : item.role ≠ .unsupported := by
    rw [isParticle]
    decide
  exact (mem_contentItems_iff supported).1 member

theorem sizeOf_content_lt_of_within?
    (member : item ∈ contentItems type.spot)
    (isWithin : type.within? item = some inner) :
    sizeOf inner.spot.content < sizeOf type.spot.content := by
  have mapped := mapped_of_within? member isWithin
  obtain ⟨_, _, isAnonymous, rfl⟩ := within?_eq_some_iff.1 isWithin
  obtain ⟨_, _, _, first⟩ := Item.anonymous?_eq_some_iff.1 isAnonymous
  exact Nat.lt_trans (Spot.sizeOf_content_lt (mem_children_of_first? first))
    (Spot.sizeOf_content_lt_of_descend? mapped.descend?
      (place_ne_nil_of_mem_contentItems type.spot item member))

/-- The complex types that classes are made for inside the class for a complex type, in document
order. -/
def inside (type : ComplexType) : List ComplexType :=
  (contentItems type.spot).attach.flatMap fun ⟨item, _⟩ =>
    match _ : type.within? item with
    | none => []
    | some inner => inner :: inside inner
termination_by sizeOf type.spot.content
decreasing_by
  exact sizeOf_content_lt_of_within? ‹item ∈ contentItems type.spot› ‹_›

/-- The complex types for a part of the content of another one. -/
def insideItem (type : ComplexType) (item : Item) : List ComplexType :=
  (type.within? item).elim [] fun inner => inner :: inner.inside

theorem inside_eq
    (type : ComplexType) :
    type.inside = (contentItems type.spot).flatMap type.insideItem := by
  have same : ∀ item : {item // item ∈ contentItems type.spot},
      (match _ : type.within? item.1 with
        | none => []
        | some inner => inner :: inner.inside) = type.insideItem item.1 := by
    intro item
    unfold insideItem
    split
    next isNone => rw [isNone, Option.elim_none]
    next inner isWithin => rw [isWithin, Option.elim_some]
  rw [inside]
  simp only [same, List.flatMap_subtype, List.unattach_attach]

theorem mem_insideItem_iff :
    inner ∈ type.insideItem item ↔
      ∃ outer, type.within? item = some outer ∧ (inner = outer ∨ inner ∈ outer.inside) := by
  unfold insideItem
  cases type.within? item <;> simp

theorem mem_inside_iff :
    inner ∈ type.inside ↔ ∃ item ∈ contentItems type.spot, ∃ outer,
      type.within? item = some outer ∧ (inner = outer ∨ inner ∈ outer.inside) := by
  rw [inside_eq, List.mem_flatMap]
  exact exists_congr fun item => and_congr_right fun _ => mem_insideItem_iff

/-- Whether a complex type is inside another one, at any depth. -/
inductive Encloses : ComplexType → ComplexType → Prop
  /-- Directly inside. -/
  | direct {type inner : ComplexType} {item : Item} (member : item ∈ contentItems type.spot)
      (isWithin : type.within? item = some inner) : Encloses type inner
  /-- Inside one that is directly inside. -/
  | further {type outer inner : ComplexType} {item : Item} (member : item ∈ contentItems type.spot)
      (isWithin : type.within? item = some outer) (encloses : Encloses outer inner) :
      Encloses type inner

theorem encloses_of_mem_inside
    {type inner : ComplexType}
    (isInside : inner ∈ type.inside) :
    Encloses type inner := by
  obtain ⟨item, member, outer, isWithin, found⟩ := mem_inside_iff.1 isInside
  rcases found with rfl | deeper
  · exact .direct member isWithin
  · exact .further member isWithin (encloses_of_mem_inside deeper)
termination_by sizeOf type.spot.content
decreasing_by exact sizeOf_content_lt_of_within? member isWithin

namespace Encloses

theorem mem_inside
    (encloses : Encloses type inner) :
    inner ∈ type.inside := by
  induction encloses with
  | direct member isWithin => exact mem_inside_iff.2 ⟨_, member, _, isWithin, .inl rfl⟩
  | further member isWithin encloses inductionHypothesis =>
      exact mem_inside_iff.2 ⟨_, member, _, isWithin, .inr inductionHypothesis⟩

/-- What is directly inside a complex type is inside all around it. -/
theorem append
    {middle : ComplexType}
    (encloses : Encloses type middle)
    (member : item ∈ contentItems middle.spot)
    (isWithin : middle.within? item = some inner) :
    Encloses type inner := by
  induction encloses with
  | direct stepMember stepWithin => exact .further stepMember stepWithin (.direct member isWithin)
  | further stepMember stepWithin encloses inductionHypothesis =>
      exact .further stepMember stepWithin (inductionHypothesis member isWithin)

theorem isSome_around?
    (encloses : Encloses type inner) :
    inner.around?.isSome := by
  induction encloses with
  | direct member isWithin =>
      obtain ⟨_, _, _, rfl⟩ := within?_eq_some_iff.1 isWithin
      rfl
  | further member isWithin encloses inductionHypothesis => exact inductionHypothesis

end Encloses

theorem binds_of_within?
    {document : Xml.Document}
    (binds : Binds document type)
    (member : item ∈ contentItems type.spot)
    (isWithin : type.within? item = some inner) :
    Binds document inner := by
  have mapped := mapped_of_within? member isWithin
  obtain ⟨index, spot, isAnonymous, rfl⟩ := within?_eq_some_iff.1 isWithin
  obtain ⟨isParticle, noReference, noType, first⟩ := Item.anonymous?_eq_some_iff.1 isAnonymous
  exact .nested binds mapped isParticle noReference noType first

theorem Encloses.binds
    {document : Xml.Document}
    (encloses : Encloses type inner)
    (binds : Binds document type) :
    Binds document inner := by
  induction encloses with
  | direct member isWithin => exact binds_of_within? binds member isWithin
  | further member isWithin encloses inductionHypothesis =>
      exact inductionHypothesis (binds_of_within? binds member isWithin)

/-! ## The order of the list -/

theorem exists_place_of_within?
    (isWithin : type.within? item = some inner) :
    ∃ index, inner.place = type.place ++ item.place ++ [index] := by
  obtain ⟨index, _, _, rfl⟩ := within?_eq_some_iff.1 isWithin
  exact ⟨index, rfl⟩

theorem role_of_within?
    (isWithin : type.within? item = some inner) :
    item.role = .particle := by
  obtain ⟨_, _, isAnonymous, _⟩ := within?_eq_some_iff.1 isWithin
  exact (Item.anonymous?_eq_some_iff.1 isAnonymous).1

/-- A complex type inside another one is inside it in the document, and not directly. -/
theorem Encloses.exists_place
    (encloses : Encloses type inner) :
    ∃ rest, 2 ≤ rest.length ∧ inner.place = type.place ++ rest := by
  induction encloses with
  | @direct type inner item member isWithin =>
      obtain ⟨index, place⟩ := exists_place_of_within? isWithin
      have long := (mapped_of_within? member isWithin).two_le_length (role_of_within? isWithin)
      refine ⟨item.place ++ [index], ?_, by rw [place, List.append_assoc]⟩
      rw [List.length_append]
      exact Nat.le_add_right_of_le long
  | @further type outer inner item member isWithin encloses inductionHypothesis =>
      obtain ⟨index, outerPlace⟩ := exists_place_of_within? isWithin
      obtain ⟨rest, long, place⟩ := inductionHypothesis
      refine ⟨item.place ++ [index] ++ rest, ?_, ?_⟩
      · rw [List.length_append]
        exact Nat.le_add_left_of_le long
      · rw [place, outerPlace]
        simp only [List.append_assoc]

/-- What is inside a part of the content is inside the part in the document. -/
theorem exists_place_of_mem_insideItem
    (isInside : inner ∈ type.insideItem item) :
    item.role = .particle ∧ ∃ rest, inner.place = type.place ++ (item.place ++ rest) := by
  obtain ⟨outer, isWithin, found⟩ := mem_insideItem_iff.1 isInside
  refine ⟨role_of_within? isWithin, ?_⟩
  obtain ⟨index, outerPlace⟩ := exists_place_of_within? isWithin
  rcases found with rfl | further
  · exact ⟨[index], by rw [outerPlace, List.append_assoc]⟩
  · obtain ⟨rest, _, place⟩ := (encloses_of_mem_inside further).exists_place
    refine ⟨[index] ++ rest, ?_⟩
    rw [place, outerPlace]
    simp only [List.append_assoc]

/-- The complex types inside another one are listed in document order. -/
theorem inside_sorted
    (type : ComplexType) :
    type.inside.Pairwise fun first second => first.place < second.place := by
  rw [inside_eq, List.pairwise_flatMap]
  constructor
  · intro item member
    unfold insideItem
    cases isWithin : type.within? item with
    | none => exact .nil
    | some outer =>
        rw [Option.elim_some, List.pairwise_cons]
        refine ⟨fun inner isInside => ?_, inside_sorted outer⟩
        obtain ⟨rest, long, place⟩ := (encloses_of_mem_inside isInside).exists_place
        rw [place]
        have further : rest ≠ [] := List.ne_nil_of_length_pos (Nat.lt_of_lt_of_le Nat.zero_lt_two long)
        exact Xml.Place.lt_append _ further
  · refine (contentItems_sorted type.spot).imp ?_
    intro firstItem secondItem before first isFirst second isSecond
    obtain ⟨isParticle, firstRest, firstPlace⟩ := exists_place_of_mem_insideItem isFirst
    obtain ⟨_, secondRest, secondPlace⟩ := exists_place_of_mem_insideItem isSecond
    rw [firstPlace, secondPlace]
    apply Xml.Place.append_lt_append_left
    exact Xml.Place.append_lt_append before.1 (before.2 isParticle) _ _
termination_by sizeOf type.spot.content
decreasing_by exact sizeOf_content_lt_of_within? member isWithin

end ComplexType

/-! ## The complex types of a document -/

/-- The complex type of a declaration at the top. -/
def topType? (child : Nat × Spot) : Option ComplexType :=
  if constructOf? child.2.tag = some "complexType" then
    some (.top child.2.tag [child.1] child.2)
  else if constructOf? child.2.tag = some "element" then
    (firstComplexType? child.2).map fun (inner, spot) => .top child.2.tag [child.1, inner] spot
  else none

/-- The complex types at the top of a document. -/
def topTypes (document : Xml.Document) : List ComplexType :=
  document.spot.children.filterMap topType?

/-- The complex types inside those at the top of a document. -/
def innerTypes (document : Xml.Document) : List ComplexType :=
  (topTypes document).flatMap ComplexType.inside

/-- The complex types that classes are made for, in the order of their classes. -/
def complexTypes (document : Xml.Document) : List ComplexType :=
  topTypes document ++ innerTypes document

variable {document : Xml.Document} {type : ComplexType}

theorem topType?_eq_some_iff
    {child : Nat × Spot} :
    topType? child = some type ↔
      (constructOf? child.2.tag = some "complexType" ∧ .top child.2.tag [child.1] child.2 = type) ∨
        (constructOf? child.2.tag = some "element" ∧ ∃ inner spot,
          firstComplexType? child.2 = some (inner, spot) ∧
            .top child.2.tag [child.1, inner] spot = type) := by
  unfold topType?
  split_ifs with isComplex isElement
  · simp [isComplex]
  · simp [isElement]
  · simp [isComplex, isElement]

theorem mem_topTypes_iff :
    type ∈ topTypes document ↔ Binds document type ∧ type.around? = none := by
  unfold topTypes
  rw [List.mem_filterMap]
  constructor
  · rintro ⟨⟨index, element⟩, isChild, isTop⟩
    have isChild := Spot.mem_children.1 isChild
    rcases topType?_eq_some_iff.1 isTop with
      ⟨construct, rfl⟩ | ⟨construct, inner, spot, first, rfl⟩
    · exact ⟨.complexType isChild construct, rfl⟩
    · exact ⟨.element isChild construct first, rfl⟩
  · rintro ⟨binds, isTop⟩
    cases binds with
    | complexType isChild construct =>
        exact ⟨_, Spot.mem_children.2 isChild, topType?_eq_some_iff.2 (.inl ⟨construct, rfl⟩)⟩
    | element isChild construct first =>
        exact ⟨_, Spot.mem_children.2 isChild,
          topType?_eq_some_iff.2 (.inr ⟨construct, _, _, first, rfl⟩)⟩
    | nested => cases isTop

/-- The list holds the complex types that classes are made for. -/
theorem mem_complexTypes_iff :
    type ∈ complexTypes document ↔ Binds document type := by
  unfold complexTypes innerTypes
  rw [List.mem_append, List.mem_flatMap]
  constructor
  · rintro (isTop | ⟨top, isTop, isInside⟩)
    · exact (mem_topTypes_iff.1 isTop).1
    · exact (ComplexType.encloses_of_mem_inside isInside).binds (mem_topTypes_iff.1 isTop).1
  · intro binds
    induction binds with
    | complexType isChild construct =>
        exact .inl (mem_topTypes_iff.2 ⟨.complexType isChild construct, rfl⟩)
    | element isChild construct first =>
        exact .inl (mem_topTypes_iff.2 ⟨.element isChild construct first, rfl⟩)
    | @nested outer item inner spot binds mapped isParticle noReference noType first
        inductionHypothesis =>
        have supported : item.role ≠ .unsupported := by
          rw [isParticle]
          decide
        have member := (mem_contentItems_iff supported).2 mapped
        have isAnonymous := Item.anonymous?_eq_some_iff.2 ⟨isParticle, noReference, noType, first⟩
        have isWithin : outer.within? item = some (.nested outer item.spot.tag
            (outer.place ++ item.place ++ [inner]) spot) :=
          ComplexType.within?_eq_some_iff.2 ⟨inner, spot, isAnonymous, rfl⟩
        rcases inductionHypothesis with isTop | ⟨top, isTop, isInside⟩
        · exact .inr ⟨outer, isTop,
            ComplexType.mem_inside_iff.2 ⟨item, member, _, isWithin, .inl rfl⟩⟩
        · have encloses := ComplexType.encloses_of_mem_inside isInside
          exact .inr ⟨top, isTop, (encloses.append member isWithin).mem_inside⟩

/-- A complex type is where its place says. -/
theorem Binds.descend?
    (binds : Binds document type) :
    document.spot.descend? type.place = some type.spot := by
  have itself : document.spot.descend? [] = some document.spot := rfl
  induction binds with
  | complexType isChild construct => exact Spot.descend?_concat itself isChild
  | element isChild construct first =>
      have isInner := Spot.mem_children.1 (mem_children_of_first? first)
      exact Spot.descend?_concat (Spot.descend?_concat itself isChild) isInner
  | @nested outer item inner spot binds mapped isParticle noReference noType first
      inductionHypothesis =>
      have isInner := Spot.mem_children.1 (mem_children_of_first? first)
      refine Spot.descend?_concat ?_ isInner
      rw [Spot.descend?_append, inductionHypothesis, Option.bind_some]
      exact mapped.descend?

theorem exists_place_of_topType?
    {child : Nat × Spot}
    (isTop : topType? child = some type) :
    ∃ rest, rest.length ≤ 1 ∧ type.place = child.1 :: rest := by
  rcases topType?_eq_some_iff.1 isTop with ⟨_, rfl⟩ | ⟨_, inner, _, _, rfl⟩
  · exact ⟨[], Nat.zero_le _, rfl⟩
  · exact ⟨[inner], Nat.le_refl _, rfl⟩

/-- What is in an earlier declaration at the top comes first. -/
theorem topTypes_sorted
    (document : Xml.Document) :
    (topTypes document).Pairwise fun first second =>
      ∀ firstRest secondRest, first.place ++ firstRest < second.place ++ secondRest := by
  unfold topTypes
  rw [List.pairwise_filterMap]
  refine document.spot.children_sorted.imp ?_
  intro earlier later before first isFirst second isSecond firstRest secondRest
  obtain ⟨_, _, firstPlace⟩ := exists_place_of_topType? isFirst
  obtain ⟨_, _, secondPlace⟩ := exists_place_of_topType? isSecond
  rw [firstPlace, secondPlace, List.cons_append, List.cons_append]
  exact List.cons_lt_cons_iff.2 (.inl before)

theorem around?_of_mem_topTypes
    (isTop : type ∈ topTypes document) :
    type.around? = none :=
  (mem_topTypes_iff.1 isTop).2

theorem around?_of_mem_innerTypes
    (isInner : type ∈ innerTypes document) :
    type.around?.isSome := by
  obtain ⟨top, _, isInside⟩ := List.mem_flatMap.1 isInner
  exact (ComplexType.encloses_of_mem_inside isInside).isSome_around?

/-- The complex types are listed in the order of their classes. -/
theorem complexTypes_sorted
    (document : Xml.Document) :
    (complexTypes document).Pairwise ComplexType.Precedes := by
  unfold complexTypes
  rw [List.pairwise_append]
  refine ⟨?_, ?_, ?_⟩
  · refine (topTypes_sorted document).imp_of_mem ?_
    intro first second isFirst isSecond before
    refine .inr ⟨by rw [around?_of_mem_topTypes isFirst, around?_of_mem_topTypes isSecond], ?_⟩
    simpa using before [] []
  · have sorted : (innerTypes document).Pairwise fun first second => first.place < second.place := by
      unfold innerTypes
      rw [List.pairwise_flatMap]
      refine ⟨fun top _ => top.inside_sorted, (topTypes_sorted document).imp ?_⟩
      intro earlier later before first isFirst second isSecond
      obtain ⟨firstRest, _, firstPlace⟩ := (ComplexType.encloses_of_mem_inside isFirst).exists_place
      obtain ⟨secondRest, _, secondPlace⟩ := (ComplexType.encloses_of_mem_inside isSecond).exists_place
      rw [firstPlace, secondPlace]
      exact before firstRest secondRest
    refine sorted.imp_of_mem ?_
    intro first second isFirst isSecond before
    refine .inr ⟨?_, before⟩
    rw [around?_of_mem_innerTypes isFirst, around?_of_mem_innerTypes isSecond]
  · intro first isTop second isInner
    exact .inl ⟨around?_of_mem_topTypes isTop, around?_of_mem_innerTypes isInner⟩

theorem Binds.length_place_le
    (binds : Binds document type)
    (isTop : type.around? = none) :
    type.place.length ≤ 2 := by
  cases binds with
  | complexType => exact Nat.le_succ 1
  | element => exact Nat.le_refl 2
  | nested => cases isTop

theorem Binds.lt_length_place
    (binds : Binds document type)
    (isNested : type.around?.isSome) :
    2 < type.place.length := by
  cases binds with
  | complexType | element => cases isNested
  | @nested outer item inner spot binds mapped isParticle noReference noType first =>
      have long := mapped.two_le_length isParticle
      rw [ComplexType.place, List.length_append, List.length_append, List.length_singleton]
      omega

/-- No two complex types that classes are made for are in one place. -/
theorem nodup_places
    (document : Xml.Document) :
    ((complexTypes document).map ComplexType.place).Nodup := by
  rw [List.Nodup, List.pairwise_map]
  refine (complexTypes_sorted document).imp_of_mem ?_
  intro first second isFirst isSecond before same
  rcases before with ⟨isTop, isNested⟩ | ⟨_, smaller⟩
  · have short := (mem_complexTypes_iff.1 isFirst).length_place_le isTop
    have long := (mem_complexTypes_iff.1 isSecond).lt_length_place isNested
    rw [same] at short
    omega
  · exact List.lt_irrefl _ (same ▸ smaller)

end Schema
end SchemaBinding
