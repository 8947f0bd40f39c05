import SchemaBinding.Schema.Reading

/-!
# Places in documents

Elements of a document are told apart by where they stand and not by what they hold.  A place is the
way to an element from another one above it: the position to take among the parts of each element on
the way.  The order of the places is the order of the document, in which an element comes before all
that is inside it.
-/

namespace SchemaBinding
namespace Xml

/-- The way down to an element: the position to take in each element on it. -/
abbrev Place := List Nat

namespace Place

/-- What comes later without being inside comes later as a whole. -/
theorem append_lt_append
    {left right : Place}
    (before : left < right)
    (outside : ¬left <+: right)
    (leftRest rightRest : Place) :
    left ++ leftRest < right ++ rightRest := by
  induction left generalizing right with
  | nil => exact absurd List.nil_prefix outside
  | cons first left inductionHypothesis =>
      cases right with
      | nil => exact absurd before (List.not_lt_nil _)
      | cons other right =>
          rw [List.cons_append, List.cons_append, List.cons_lt_cons_iff]
          rcases List.cons_lt_cons_iff.1 before with smaller | ⟨rfl, later⟩
          · exact .inl smaller
          · refine .inr ⟨rfl, inductionHypothesis later fun isPrefix => outside ?_⟩
            exact List.cons_prefix_cons.2 ⟨rfl, isPrefix⟩

theorem append_lt_append_left
    (above : Place)
    {left right : Place}
    (before : left < right) :
    above ++ left < above ++ right := by
  induction above with
  | nil => exact before
  | cons first above inductionHypothesis =>
      exact List.cons_lt_cons_iff.2 (.inr ⟨rfl, inductionHypothesis⟩)

/-- What is inside an element comes after it. -/
theorem lt_append
    (above : Place)
    {below : Place}
    (inside : below ≠ []) :
    above < above ++ below := by
  obtain ⟨first, rest, rfl⟩ := List.exists_cons_of_ne_nil inside
  simpa using append_lt_append_left above (List.nil_lt_cons first rest)

end Place

/-- An element where it stands: the scope inside it, what its tags say, and its content. -/
structure Spot where
  /-- The scope inside the element. -/
  scope : Scope
  /-- What the tags of the element say. -/
  tag : Tag
  /-- The content of the element. -/
  content : List Node

/-- The element that a part of a document is, if it is one. -/
def Node.spot? (outer : Scope) : Node → Option Spot
  | .element tag children => some ⟨outer.enter tag.declarations, tag, children⟩
  | .text _ => none
  | .comment _ => none
  | .instruction _ _ => none

/-- The outermost element of a document. -/
def Document.spot (document : Document) : Spot :=
  ⟨document.scope, document.root, document.children⟩

namespace Spot

/-- The elements directly inside an element, each with its position. -/
def children (spot : Spot) : List (Nat × Spot) :=
  spot.content.zipIdx.filterMap fun (node, index) =>
    (node.spot? spot.scope).map fun child => (index, child)

/-- The element at a position inside an element. -/
def child? (spot : Spot) (index : Nat) : Option Spot :=
  spot.content[index]?.bind (Node.spot? spot.scope)

/-- The element at a place inside an element. -/
def descend? (spot : Spot) : Place → Option Spot
  | [] => some spot
  | index :: rest => (spot.child? index).bind fun child => child.descend? rest

variable {spot child below : Spot} {index : Nat} {place : Place}

theorem mem_children :
    (index, child) ∈ spot.children ↔ spot.child? index = some child := by
  unfold children child?
  simp only [List.mem_filterMap, Option.map_eq_some_iff, Option.bind_eq_some_iff, Prod.exists,
    List.mem_zipIdx_iff_getElem?]
  constructor
  · rintro ⟨node, position, isPart, found, isSpot, same⟩
    obtain ⟨rfl, rfl⟩ := Prod.mk.inj same
    exact ⟨node, isPart, isSpot⟩
  · rintro ⟨node, isPart, isSpot⟩
    exact ⟨node, index, isPart, child, isSpot, rfl⟩

/-- The elements directly inside an element stand in the order of their positions. -/
theorem children_sorted
    (spot : Spot) :
    spot.children.Pairwise fun left right => left.1 < right.1 := by
  have positions : (spot.content.zipIdx.map Prod.snd).Pairwise (· < ·) := by
    rw [List.zipIdx_map_snd]
    exact List.pairwise_lt_range'
  rw [List.pairwise_map] at positions
  unfold children
  rw [List.pairwise_filterMap]
  apply positions.imp
  rintro ⟨leftNode, left⟩ ⟨rightNode, right⟩ before ⟨_, first⟩ isFirst ⟨_, second⟩ isSecond
  obtain ⟨_, _, sameFirst⟩ := Option.map_eq_some_iff.1 isFirst
  obtain ⟨_, _, sameSecond⟩ := Option.map_eq_some_iff.1 isSecond
  rw [← (Prod.mk.inj sameFirst).1, ← (Prod.mk.inj sameSecond).1]
  exact before

/-- The content of an element inside another one is smaller. -/
theorem sizeOf_content_lt
    (found : (index, child) ∈ spot.children) :
    sizeOf child.content < sizeOf spot.content := by
  obtain ⟨node, isPart, isSpot⟩ := Option.bind_eq_some_iff.1 (mem_children.1 found)
  have smaller := List.sizeOf_lt_of_mem (List.mem_of_getElem? isPart)
  cases node with
  | element tag parts =>
      rw [Node.spot?, Option.some.injEq] at isSpot
      subst isSpot
      rw [Node.element.sizeOf_spec] at smaller
      dsimp only
      omega
  | text | comment | instruction => cases isSpot

/-- The way down may be taken in two parts. -/
theorem descend?_append
    (spot : Spot)
    (first second : Place) :
    spot.descend? (first ++ second) =
      (spot.descend? first).bind fun middle => middle.descend? second := by
  induction first generalizing spot with
  | nil => rfl
  | cons index rest inductionHypothesis =>
      rw [List.cons_append, descend?, descend?]
      cases spot.child? index with
      | none => rfl
      | some child => exact inductionHypothesis child

/-- What is further down in an element is smaller. -/
theorem sizeOf_content_lt_of_descend?
    (found : spot.descend? place = some below)
    (down : place ≠ []) :
    sizeOf below.content < sizeOf spot.content := by
  induction place generalizing spot with
  | nil => exact absurd rfl down
  | cons index rest inductionHypothesis =>
      obtain ⟨child, isChild, found⟩ := Option.bind_eq_some_iff.1 found
      have smaller := sizeOf_content_lt (mem_children.2 isChild)
      cases rest with
      | nil =>
          rw [descend?, Option.some.injEq] at found
          exact found ▸ smaller
      | cons next further =>
          exact Nat.lt_trans (inductionHypothesis found (List.cons_ne_nil _ _)) smaller

theorem descend?_concat
    (found : spot.descend? place = some below)
    (isChild : below.child? index = some child) :
    spot.descend? (place ++ [index]) = some child := by
  rw [descend?_append, found, Option.bind_some, descend?, isChild]
  rfl

theorem content_eq
    (spot : Spot) :
    spot.content = spot.content.zipIdx.map Prod.fst :=
  (List.zipIdx_map_fst 0 spot.content).symm

/-- What is read from the elements inside an element, if nothing else in it counts. -/
theorem flatMap_content
    {Result : Type}
    {read : Node → List Result}
    {readChild : Spot → List Result}
    (spot : Spot)
    (same : ∀ node, read node = (node.spot? spot.scope).elim [] readChild) :
    spot.content.flatMap read = spot.children.flatMap fun child => readChild child.2 := by
  rw [spot.content_eq, List.flatMap_map, children]
  induction spot.content.zipIdx with
  | nil => rfl
  | cons entry rest inductionHypothesis =>
      rw [List.flatMap_cons, inductionHypothesis, same, List.filterMap_cons]
      cases isSpot : entry.1.spot? spot.scope <;> simp [isSpot]

/-- What is read from the first element inside an element from which something can be read. -/
theorem findSome?_content
    {Result : Type}
    {read : Node → Option Result}
    {wanted : Spot → Bool}
    {readChild : Spot → Result}
    (spot : Spot)
    (same : ∀ node, read node =
      (node.spot? spot.scope).bind fun child => if wanted child then some (readChild child) else none) :
    spot.content.findSome? read =
      (spot.children.find? fun child => wanted child.2).map fun child => readChild child.2 := by
  rw [spot.content_eq, List.findSome?_map, children]
  induction spot.content.zipIdx with
  | nil => rfl
  | cons entry rest inductionHypothesis =>
      rw [List.findSome?_cons, Function.comp_apply, same, List.filterMap_cons]
      cases isSpot : entry.1.spot? spot.scope with
      | none => simpa [isSpot] using inductionHypothesis
      | some child =>
          by_cases isWanted : wanted child
          · simp [isSpot, isWanted]
          · simpa [isSpot, isWanted] using inductionHypothesis

end Spot
end Xml

namespace Schema

open Xml (Spot)

/-- The first element directly inside another one that stands for one of some constructs, with its
position. -/
def first? (wanted : List String) (spot : Spot) : Option (Nat × Spot) :=
  spot.children.find? fun child => (constructOf? child.2.tag).any (· ∈ wanted)

theorem mem_children_of_first?
    {wanted : List String}
    {spot : Spot}
    {found : Nat × Spot}
    (isFirst : first? wanted spot = some found) :
    found ∈ spot.children :=
  List.mem_of_find?_eq_some isFirst

end Schema
end SchemaBinding
