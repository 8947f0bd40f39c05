import Mathlib.Logic.Relation
import SchemaBinding.Proofs.Counterparts

/-!
# Nests of classes

To write a signature is to go through the classes along their nesting, from a class to those inside
it, with no record of where one has been.  What is gone through is a finite tree of classes for each
class at the top of a package; the depth to which a signature shows classes never cuts such a tree
short.
-/

namespace SchemaBinding

open Relation (ReflTransGen TransGen)

/-- A class with the nests of the classes that are gone through inside it. -/
structure Nest where
  /-- The class. -/
  id : ClassId
  /-- The nests inside it. -/
  inner : List Nest
deriving Repr

/-- Lists with the same keys are equal if a key determines what it is of. -/
theorem eq_of_map_eq
    {Item Key : Type}
    {key : Item → Key}
    {left right : List Item}
    (same : left.map key = right.map key)
    (determined : ∀ item ∈ left, ∀ other ∈ right, key item = key other → item = other) :
    left = right := by
  have equal : right = left.map id :=
    Outline.eq_map_of_map_eq same fun item member other otherMember sameKey =>
      (determined item member other otherMember sameKey).symm
  rw [equal, List.map_id]

namespace Nest

variable {outline : Outline} {options : SignatureOptions} {package : String}

mutual

/-- The classes of a nest, each before those inside it. -/
def ids : Nest → List ClassId
  | ⟨id, inner⟩ => id :: idsOfAll inner

/-- The classes of nests, one nest after the other. -/
def idsOfAll : List Nest → List ClassId
  | [] => []
  | nest :: rest => ids nest ++ idsOfAll rest

end

theorem idsOfAll_eq_flatMap (nests : List Nest) : idsOfAll nests = nests.flatMap ids := by
  induction nests with
  | nil => rfl
  | cons nest rest inductionHypothesis =>
      rw [idsOfAll, inductionHypothesis, List.flatMap_cons]

mutual

/-- What a signature shows of a nest: the class, its supertypes, its fields, then what is inside. -/
def shown (outline : Outline) (options : SignatureOptions) (package : String) : Nest → ClassTree
  | ⟨id, inner⟩ =>
      { name := (outline.class? id).elim "" Class.name
        supertypes :=
          ((outline.supertypes id).filterMap outline.typeOf?).map
            (Outline.displaySupertype options package)
        fields :=
          (outline.fieldsOf id).map fun field =>
            (Outline.displayType options field.type, field.name)
        nested := shownAll outline options package inner }

/-- What a signature shows of nests, one after the other. -/
def shownAll (outline : Outline) (options : SignatureOptions) (package : String) :
    List Nest → List ClassTree
  | [] => []
  | nest :: rest => shown outline options package nest :: shownAll outline options package rest

end

theorem shownAll_eq_map (nests : List Nest) :
    shownAll outline options package nests = nests.map (shown outline options package) := by
  induction nests with
  | nil => rfl
  | cons nest rest inductionHypothesis =>
      rw [shownAll, inductionHypothesis, List.map_cons]

/-- Whether a nest has inside each of its classes the nests of all classes that are nested in that
class, in their order. -/
inductive Complete (outline : Outline) : Nest → Prop
  | mk {id : ClassId} {inner : List Nest} (same : inner.map Nest.id = outline.nested id)
      (inside : ∀ nest ∈ inner, Complete outline nest) : Complete outline ⟨id, inner⟩

/-- A class has only one complete nest. -/
theorem Complete.unique
    {left right : Nest}
    (leftComplete : left.Complete outline)
    (rightComplete : right.Complete outline)
    (sameId : left.id = right.id) :
    left = right := by
  induction leftComplete generalizing right with
  | @mk id inner same inside inductionHypothesis =>
      obtain ⟨otherSame, otherInside⟩ := rightComplete
      dsimp only at sameId
      subst sameId
      have inners := eq_of_map_eq (same.trans otherSame.symm)
        fun nest member other otherMember =>
          inductionHypothesis nest member (otherInside other otherMember)
      rw [inners]

end Nest

/-! ## Classes inside classes -/

namespace Outline

variable {outline : Outline}

/-- Whether a class is nested directly in another. -/
def DirectlyInside (outline : Outline) (inner outer : ClassId) : Prop :=
  outline.enclosing? inner = some outer

theorem mem_of_transGen_directlyInside
    {id outer : ClassId}
    {rest : List ClassId}
    (around : Around outline.class? id rest)
    (inside : TransGen outline.DirectlyInside id outer) :
    outer ∈ rest := by
  induction around with
  | outermost top =>
      obtain ⟨middle, first, _⟩ := TransGen.head'_iff.1 inside
      exact absurd (top.symm.trans first) (by simp)
  | @inside id next rest enclosed around inductionHypothesis =>
      obtain ⟨middle, first, further⟩ := TransGen.head'_iff.1 inside
      obtain rfl : next = middle := Option.some.inj (enclosed.symm.trans first)
      rcases Relation.reflTransGen_iff_eq_or_transGen.1 further with rfl | further
      · exact List.mem_cons_self
      · exact List.mem_cons_of_mem _ (inductionHypothesis further)

/-- No class is inside itself. -/
theorem WellFormed.not_inside_self
    (formed : outline.WellFormed)
    (id : ClassId) :
    ¬TransGen outline.DirectlyInside id id := by
  intro cycle
  obtain ⟨_, first, _⟩ := TransGen.head'_iff.1 cycle
  obtain ⟨_, _, _, named, _⟩ := formed.typed id (mem_classIds_of_enclosing? first)
  obtain ⟨rest, around⟩ := named.reachesTop
  exact around.not_mem_self (mem_of_transGen_directlyInside around cycle)

/-- Classes side by side have no class inside both. -/
theorem WellFormed.eq_of_inside_both
    (formed : outline.WellFormed)
    {left right other : ClassId}
    (beside : outline.enclosing? left = outline.enclosing? right)
    (insideLeft : ReflTransGen outline.DirectlyInside other left)
    (insideRight : ReflTransGen outline.DirectlyInside other right) :
    left = right := by
  have same : ∀ {left right}, outline.enclosing? left = outline.enclosing? right →
      ReflTransGen outline.DirectlyInside left right → left = right := by
    intro left right beside inside
    rcases ReflTransGen.cases_head_iff.1 inside with equal | ⟨middle, first, further⟩
    · exact equal
    · have next : outline.DirectlyInside right middle := beside.symm.trans first
      exact absurd (TransGen.head' next further) (formed.not_inside_self right)
  -- A class is directly inside one class at most, so of two classes around it one is inside the
  -- other; side by side they are then the same.
  have unique : Relator.RightUnique outline.DirectlyInside := fun _ _ _ first second =>
    Option.some.inj (first.symm.trans second)
  rcases ReflTransGen.total_of_right_unique unique insideLeft insideRight with below | above
  · exact same beside below
  · exact (same beside.symm above).symm

/-- Around every class is a class that is not nested. -/
theorem WellFormed.exists_top
    (formed : outline.WellFormed)
    {id : ClassId}
    (isClass : id ∈ outline.classIds) :
    ∃ top ∈ outline.topLevel, ReflTransGen outline.DirectlyInside id top := by
  have reaches : ReachesTop outline.class? id := by
    obtain ⟨_, _, _, named, _⟩ := formed.typed id isClass
    exact named.reachesTop
  obtain ⟨rest, around⟩ := reaches
  induction around with
  | outermost top => exact ⟨_, mem_topLevel.2 ⟨isClass, top⟩, .refl⟩
  | inside enclosed around inductionHypothesis =>
      obtain ⟨top, isTop, inside⟩ := inductionHypothesis (formed.enclosing_mem enclosed)
      exact ⟨top, isTop, inside.head enclosed⟩

end Outline

/-! ## The classes of complete nests -/

namespace Nest

variable {outline : Outline}

/-- The classes of a complete nest are its class and the classes inside that one. -/
theorem Complete.mem_ids_iff
    {nest : Nest}
    (complete : nest.Complete outline)
    (formed : outline.WellFormed)
    {id : ClassId} :
    id ∈ nest.ids ↔ ReflTransGen outline.DirectlyInside id nest.id := by
  induction complete with
  | @mk outer inner same inside inductionHypothesis =>
      rw [ids, List.mem_cons, idsOfAll_eq_flatMap, List.mem_flatMap,
        ReflTransGen.cases_tail_iff, eq_comm]
      refine or_congr_right ⟨?_, ?_⟩
      · rintro ⟨nest, member, isInside⟩
        have isNested : nest.id ∈ outline.nested outer := same ▸ List.mem_map_of_mem member
        exact ⟨nest.id, (inductionHypothesis nest member).1 isInside,
          formed.mem_nested.1 isNested⟩
      · rintro ⟨middle, isInside, last⟩
        have isNested : middle ∈ inner.map Nest.id := same ▸ formed.mem_nested.2 last
        obtain ⟨nest, member, rfl⟩ := List.mem_map.1 isNested
        exact ⟨nest, member, (inductionHypothesis nest member).2 isInside⟩

/-- Nests of different classes that are side by side have no class in common. -/
theorem nodup_idsOfAll
    (formed : outline.WellFormed)
    {nests : List Nest}
    (complete : ∀ nest ∈ nests, nest.Complete outline)
    (distinct : (nests.map Nest.id).Nodup)
    {around : Option ClassId}
    (beside : ∀ nest ∈ nests, outline.enclosing? nest.id = around)
    (nodup : ∀ nest ∈ nests, nest.ids.Nodup) :
    (idsOfAll nests).Nodup := by
  rw [idsOfAll_eq_flatMap, List.nodup_flatMap]
  refine ⟨nodup, ?_⟩
  refine (List.pairwise_map.1 distinct).imp_of_mem ?_
  intro left right isLeft isRight different id inLeft inRight
  apply different
  apply formed.eq_of_inside_both ((beside left isLeft).trans (beside right isRight).symm)
  · exact ((complete left isLeft).mem_ids_iff formed).1 inLeft
  · exact ((complete right isRight).mem_ids_iff formed).1 inRight

/-- A complete nest has no class twice. -/
theorem Complete.nodup_ids
    {nest : Nest}
    (complete : nest.Complete outline)
    (formed : outline.WellFormed) :
    nest.ids.Nodup := by
  induction complete with
  | @mk outer inner same inside inductionHypothesis =>
      have enclosed : ∀ nest ∈ inner, outline.DirectlyInside nest.id outer := fun nest member =>
        formed.mem_nested.1 (same ▸ List.mem_map_of_mem member)
      rw [ids, List.nodup_cons]
      constructor
      · rw [idsOfAll_eq_flatMap, List.mem_flatMap]
        rintro ⟨nest, member, isInside⟩
        have path := ((inside nest member).mem_ids_iff formed).1 isInside
        exact formed.not_inside_self outer (TransGen.tail' path (enclosed nest member))
      · apply nodup_idsOfAll formed inside _ enclosed inductionHypothesis
        rw [same]
        exact (formed.nested_sorted outer).nodup

end Nest

/-! ## Going through an outline -/

/-- The nests of the classes at the top of a package. -/
structure PackageNests where
  /-- The name of the package. -/
  package : String
  /-- The nests. -/
  nests : List Nest
deriving Repr

namespace PackageNests

/-- The classes of the nests. -/
def ids (group : PackageNests) : List ClassId :=
  Nest.idsOfAll group.nests

/-- The block that shows the nests. -/
def shown (outline : Outline) (options : SignatureOptions) (group : PackageNests) : PackageBlock :=
  ⟨group.package, Nest.shownAll outline options group.package group.nests⟩

end PackageNests

namespace Outline

variable {outline : Outline}

/-- Whether groups of nests are all that there is to go through: one for every package with classes
at the top, in the order of the packages, each with a complete nest for every such class, in the
order of creation. -/
structure GoesThrough (outline : Outline) (groups : List PackageNests) : Prop where
  /-- There is a group for every package. -/
  packages : groups.map PackageNests.package = outline.packageNames
  /-- There is a nest for every class at the top of the package. -/
  top : ∀ group ∈ groups, group.nests.map Nest.id = outline.topLevelOf group.package
  /-- The nests leave out no class. -/
  complete : ∀ group ∈ groups, ∀ nest ∈ group.nests, nest.Complete outline

/-- The nest of a class down to a given depth. -/
def nest (outline : Outline) : Nat → ClassId → Nest
  | 0, id => ⟨id, []⟩
  | depth + 1, id => ⟨id, (outline.nested id).map (outline.nest depth)⟩

@[simp] theorem id_nest
    (outline : Outline)
    (depth : Nat)
    (id : ClassId) :
    (outline.nest depth id).id = id := by
  cases depth <;> rfl

/-- The nests that a signature goes through. -/
def packageNests (outline : Outline) : List PackageNests :=
  outline.packageNames.map fun package =>
    ⟨package, (outline.topLevelOf package).map (outline.nest outline.classes.length)⟩

/-- A class tree shows the nest of the same depth. -/
theorem classTree_eq_shown
    (outline : Outline)
    (options : SignatureOptions)
    (package : String)
    (depth : Nat)
    (id : ClassId) :
    outline.classTree options package depth id =
      (outline.nest depth id).shown outline options package := by
  induction depth generalizing id with
  | zero => rw [classTree, nest, Nest.shown, Nest.shownAll]
  | succ depth inductionHypothesis =>
      rw [classTree, nest, Nest.shown, Nest.shownAll_eq_map, List.map_map]
      congr 1
      exact List.map_congr_left fun inner _ => inductionHypothesis inner

theorem packageBlocks_eq_shown
    (outline : Outline)
    (options : SignatureOptions) :
    outline.packageBlocks options =
      outline.packageNests.map (PackageNests.shown outline options) := by
  rw [packageBlocks, packageNests, List.map_map]
  apply List.map_congr_left
  intro package _
  rw [packageBlock, Function.comp_apply, PackageNests.shown, Nest.shownAll_eq_map, List.map_map]
  congr 1
  apply List.map_congr_left
  intro id _
  exact outline.classTree_eq_shown options package _ id

/-- A nest is complete that is deep enough for the classes around its class to be counted in. -/
theorem WellFormed.complete_nest
    (formed : outline.WellFormed)
    {depth : Nat}
    {id : ClassId}
    {rest : List ClassId}
    (isClass : id ∈ outline.classIds)
    (around : Around outline.class? id rest)
    (enough : outline.classes.length ≤ depth + rest.length) :
    (outline.nest depth id).Complete outline := by
  -- Every step down adds a class to those around, which stay fewer than all classes.
  induction depth generalizing id rest with
  | zero =>
      have bound := formed.length_around_lt isClass around
      omega
  | succ depth inductionHypothesis =>
      refine .mk (by simp [Function.comp_def]) (List.forall_mem_map.2 fun inner isNested => ?_)
      have enclosed := formed.mem_nested.1 isNested
      apply inductionHypothesis (mem_classIds_of_enclosing? enclosed) (.inside enclosed around)
      rw [List.length_cons]
      omega

theorem WellFormed.goesThrough
    (formed : outline.WellFormed) :
    outline.GoesThrough outline.packageNests := by
  constructor
  case packages => simp [packageNests, Function.comp_def]
  case top => simp [packageNests, Function.comp_def]
  case complete =>
    refine List.forall_mem_map.2 fun package _ => List.forall_mem_map.2 fun id isTop => ?_
    obtain ⟨isClass, top⟩ := mem_topLevel.1 (mem_topLevelOf.1 isTop).1
    exact formed.complete_nest isClass (.outermost top) (Nat.le_add_right _ _)

/-- There is only one way to go through an outline. -/
theorem GoesThrough.unique
    {left right : List PackageNests}
    (leftGoes : outline.GoesThrough left)
    (rightGoes : outline.GoesThrough right) :
    left = right := by
  apply eq_of_map_eq (leftGoes.packages.trans rightGoes.packages.symm)
  rintro ⟨package, nests⟩ isLeft ⟨_, others⟩ isRight rfl
  have sameNests : nests = others := by
    apply eq_of_map_eq ((leftGoes.top _ isLeft).trans (rightGoes.top _ isRight).symm)
    intro nest isNest other isOther
    have complete := leftGoes.complete _ isLeft nest isNest
    exact complete.unique (rightGoes.complete _ isRight other isOther)
  rw [sameNests]

end Outline
end SchemaBinding
