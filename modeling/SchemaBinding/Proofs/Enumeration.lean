import Std.Data.TreeMap.Lemmas
import SchemaBinding.Proofs.Nests
import SchemaBinding.Proofs.OctetOrder
import SchemaBinding.Proofs.Readability

/-!
# What a signature shows

A signature shows each class of a finished outline once and each field once.  The nests that it goes
through share no class and leave none out; every class has one header, with which the fields of
that class follow, and no field belongs to two classes.
-/

namespace SchemaBinding

open Relation (ReflTransGen)

/-! ## Headers -/

/-- Whether a line is the header of a class. -/
def Line.opensClass (line : Line) : Bool :=
  "interface ".toList.isPrefixOf line.text.toList && line.text.toList.getLast? == some '\x7b'

namespace Nest

variable {outline : Outline} {options : SignatureOptions} {package : String}

theorem opensClass_header
    (indent : Nat)
    (name : String)
    (supertypes : List String) :
    Line.opensClass ⟨indent, ClassTree.header name supertypes⟩ := by
  rw [Line.opensClass, ClassTree.getLast?_header, ClassTree.header_toList]
  simp

theorem not_opensClass_fieldLine
    (indent : Nat)
    (field : String × String) :
    ¬Line.opensClass ⟨indent, ClassTree.fieldLine field⟩ := by
  rw [Line.opensClass, ClassTree.getLast?_fieldLine]
  simp

mutual

/-- A nest is shown with one header for each of its classes. -/
theorem countP_lines_shown
    (indent : Nat) :
    (nest : Nest) →
      ((nest.shown outline options package).lines indent).countP Line.opensClass = nest.ids.length
  | ⟨id, inner⟩ => by
      have fields : ∀ list : List (String × String),
          (list.map fun field => (⟨indent + 1, ClassTree.fieldLine field⟩ : Line)).countP
            Line.opensClass = 0 := by
        intro list
        rw [List.countP_eq_zero, List.forall_mem_map]
        exact fun field _ => not_opensClass_fieldLine _ field
      rw [shown, ClassTree.lines, ids, List.cons_append, List.cons_append,
        List.countP_cons_of_pos (opensClass_header _ _ _), List.countP_append, List.countP_append,
        fields, countP_linesOfAll_shown (indent + 1) inner, List.length_cons]
      simp [Line.opensClass]

/-- Nests are shown with one header for each of their classes. -/
theorem countP_linesOfAll_shown
    (indent : Nat) :
    (nests : List Nest) →
      (ClassTree.linesOfAll indent (shownAll outline options package nests)).countP
        Line.opensClass = (idsOfAll nests).length
  | [] => rfl
  | nest :: rest => by
      rw [shownAll, ClassTree.linesOfAll, idsOfAll, List.countP_append, List.length_append,
        countP_lines_shown indent nest, countP_linesOfAll_shown indent rest]

end

end Nest

theorem PackageNests.countP_lines_shown
    (outline : Outline)
    (options : SignatureOptions)
    (group : PackageNests) :
    ((group.shown outline options).lines).countP Line.opensClass = group.ids.length := by
  have package : ¬Line.opensClass ⟨0, "package " ++ group.package ++ " \x7b"⟩ := by
    simp [Line.opensClass]
  rw [shown, PackageBlock.lines, List.cons_append, List.countP_cons_of_neg package,
    List.countP_append, Nest.countP_linesOfAll_shown, ids]
  simp [Line.opensClass]

namespace Outline

variable {outline : Outline} {groups : List PackageNests}

theorem countP_signatureLines
    {options : SignatureOptions}
    (blocks : outline.packageBlocks options = groups.map (PackageNests.shown outline options)) :
    (outline.signatureLines options).countP Line.opensClass =
      (groups.flatMap PackageNests.ids).length := by
  rw [signatureLines, blocks, List.flatMap_map, List.countP_flatMap, List.length_flatMap]
  congr 1
  exact List.map_congr_left fun group _ => group.countP_lines_shown outline options

/-! ## Groups -/

/-- Groups with one more class, which comes last in the group of its package. -/
def intoGroup (outline : Outline) (groups : Std.TreeMap String (List ClassId)) (id : ClassId) :
    Std.TreeMap String (List ClassId) :=
  match outline.packageNameOf? id with
  | some package => groups.alter package fun ids => some (ids.getD [] ++ [id])
  | none => groups

/-- The groups of the classes at the top, where each class is put into the group of its package as
it comes. -/
def grouped (outline : Outline) : Std.TreeMap String (List ClassId) :=
  outline.topLevel.foldl outline.intoGroup ∅

theorem getElem?_intoGroup
    (groups : Std.TreeMap String (List ClassId))
    (id : ClassId)
    (package : String) :
    (outline.intoGroup groups id)[package]? =
      if outline.packageNameOf? id = some package then some (groups[package]?.getD [] ++ [id])
      else groups[package]? := by
  unfold intoGroup
  cases outline.packageNameOf? id with
  | none => simp
  | some own =>
      rw [Std.TreeMap.getElem?_alter]
      by_cases same : own = package <;> simp [same]

theorem getElem?_foldl_intoGroup
    (ids : List ClassId)
    (groups : Std.TreeMap String (List ClassId))
    (package : String) :
    (ids.foldl outline.intoGroup groups)[package]? =
      match ids.filter fun id => outline.packageNameOf? id = some package with
      | [] => groups[package]?
      | first :: rest => some (groups[package]?.getD [] ++ first :: rest) := by
  -- A group comes to be with its first class, which is why an empty filter leaves all as it is.
  induction ids generalizing groups with
  | nil => rfl
  | cons id ids inductionHypothesis =>
      rw [List.foldl_cons, inductionHypothesis, getElem?_intoGroup]
      by_cases own : outline.packageNameOf? id = some package
      · simp only [own, if_true, decide_true, List.filter_cons_of_pos]
        cases ids.filter fun id => outline.packageNameOf? id = some package <;> simp
      · simp [own]

theorem mem_packageNames_iff_topLevelOf
    {package : String} :
    package ∈ outline.packageNames ↔ outline.topLevelOf package ≠ [] := by
  rw [Ne, List.eq_nil_iff_forall_not_mem, mem_packageNames]
  simp [mem_topLevelOf]

/-- The groups are those of the packages in ascending order. -/
theorem toList_grouped
    (outline : Outline) :
    outline.grouped.toList =
      outline.packageNames.map fun package => (package, outline.topLevelOf package) := by
  have ascending : outline.grouped.toList.Pairwise fun left right =>
      compare left.1 right.1 = .lt := Std.TreeMap.ordered_keys_toList
  have sorted : outline.grouped.toList.Pairwise fun left right => left.1 < right.1 :=
    ascending.imp fun before => compareOfLessAndEq_eq_lt.1 before
  have lookup : ∀ package ids, (package, ids) ∈ outline.grouped.toList ↔
      package ∈ outline.packageNames ∧ ids = outline.topLevelOf package := by
    intro package ids
    rw [Std.TreeMap.mem_toList_iff_getElem?_eq_some, grouped, getElem?_foldl_intoGroup,
      ← topLevelOf, mem_packageNames_iff_topLevelOf]
    cases outline.topLevelOf package <;> simp [eq_comm]
  have : Std.Asymm fun left right : String × List ClassId => left.1 < right.1 :=
    ⟨fun _ _ => String.lt_asymm⟩
  apply sorted.eq_of_mem_iff
  · exact List.pairwise_map.2 outline.packageNames_sorted
  · rintro ⟨package, ids⟩
    rw [lookup]
    simp [eq_comm]

theorem GoesThrough.map_eq_grouped
    (goes : outline.GoesThrough groups) :
    groups.map (fun group => (group.package, group.nests.map Nest.id)) =
      outline.grouped.toList := by
  rw [toList_grouped, ← goes.packages, List.map_map]
  exact List.map_congr_left fun group member => Prod.ext rfl (goes.top group member)

/-! ## Classes -/

theorem WellFormed.mem_flatMap_topLevelOf
    (formed : outline.WellFormed)
    {id : ClassId} :
    id ∈ outline.packageNames.flatMap outline.topLevelOf ↔ id ∈ outline.topLevel := by
  rw [List.mem_flatMap]
  constructor
  · rintro ⟨package, _, isTop⟩
    exact (mem_topLevelOf.1 isTop).1
  · intro isTop
    obtain ⟨package, _, packaged, _⟩ := formed.typed id (mem_topLevel.1 isTop).1
    exact ⟨package, mem_packageNames.2 ⟨id, isTop, packaged⟩, mem_topLevelOf.2 ⟨isTop, packaged⟩⟩

theorem nodup_flatMap_topLevelOf
    (outline : Outline) :
    (outline.packageNames.flatMap outline.topLevelOf).Nodup := by
  rw [List.nodup_flatMap]
  constructor
  · intro package _
    exact (outline.topLevelOf_sorted package).nodup
  · apply outline.nodup_packageNames.imp
    intro left right different id isLeft isRight
    have packages := (mem_topLevelOf.1 isLeft).2.symm.trans (mem_topLevelOf.1 isRight).2
    exact different (Option.some.inj packages)

namespace GoesThrough

variable {nest : Nest} {id : ClassId}

theorem map_id
    (goes : outline.GoesThrough groups) :
    (groups.flatMap PackageNests.nests).map Nest.id =
      outline.packageNames.flatMap outline.topLevelOf := by
  rw [List.map_flatMap, ← goes.packages, List.flatMap_map]
  exact List.flatMap_congr fun group member => goes.top group member

theorem complete_of_mem
    (goes : outline.GoesThrough groups)
    (member : nest ∈ groups.flatMap PackageNests.nests) :
    nest.Complete outline := by
  obtain ⟨group, isGroup, isNest⟩ := List.mem_flatMap.1 member
  exact goes.complete group isGroup nest isNest

theorem mem_topLevel_of_mem
    (goes : outline.GoesThrough groups)
    (formed : outline.WellFormed)
    (member : nest ∈ groups.flatMap PackageNests.nests) :
    nest.id ∈ outline.topLevel := by
  apply formed.mem_flatMap_topLevelOf.1
  rw [← goes.map_id]
  exact List.mem_map_of_mem member

/-- All classes are inside those at the top. -/
theorem mem_idsOfAll_iff
    (goes : outline.GoesThrough groups)
    (formed : outline.WellFormed) :
    id ∈ Nest.idsOfAll (groups.flatMap PackageNests.nests) ↔ id ∈ outline.classIds := by
  rw [Nest.idsOfAll_eq_flatMap, List.mem_flatMap]
  constructor
  · rintro ⟨nest, member, isInside⟩
    have path := ((goes.complete_of_mem member).mem_ids_iff formed).1 isInside
    rcases ReflTransGen.cases_head_iff.1 path with same | ⟨_, enclosed, _⟩
    · rw [same]
      exact (mem_topLevel.1 (goes.mem_topLevel_of_mem formed member)).1
    · exact mem_classIds_of_enclosing? enclosed
  · intro isClass
    obtain ⟨top, isTop, inside⟩ := formed.exists_top isClass
    rw [← formed.mem_flatMap_topLevelOf, ← goes.map_id, List.mem_map] at isTop
    obtain ⟨nest, member, rfl⟩ := isTop
    exact ⟨nest, member, ((goes.complete_of_mem member).mem_ids_iff formed).2 inside⟩

theorem nodup_idsOfAll
    (goes : outline.GoesThrough groups)
    (formed : outline.WellFormed) :
    (Nest.idsOfAll (groups.flatMap PackageNests.nests)).Nodup := by
  apply Nest.nodup_idsOfAll formed fun nest member => goes.complete_of_mem member
  · rw [goes.map_id]
    exact outline.nodup_flatMap_topLevelOf
  · exact fun nest member => (mem_topLevel.1 (goes.mem_topLevel_of_mem formed member)).2
  · exact fun nest member => (goes.complete_of_mem member).nodup_ids formed

/-- To go through an outline is to come to each of its classes once. -/
theorem perm_classIds
    (goes : outline.GoesThrough groups)
    (formed : outline.WellFormed) :
    (groups.flatMap PackageNests.ids).Perm outline.classIds := by
  have flat : groups.flatMap PackageNests.ids =
      Nest.idsOfAll (groups.flatMap PackageNests.nests) := by
    rw [Nest.idsOfAll_eq_flatMap, List.flatMap_assoc]
    exact List.flatMap_congr fun group _ => Nest.idsOfAll_eq_flatMap group.nests
  rw [flat]
  exact (List.perm_ext_iff_of_nodup (goes.nodup_idsOfAll formed) outline.nodup_classIds).2
    fun _ => goes.mem_idsOfAll_iff formed

end GoesThrough

/-! ## Fields -/

/-- All fields, of whatever class. -/
def fieldIds (outline : Outline) : List FieldId :=
  (List.range outline.fields.length).map FieldId.mk

/-- The handles of the fields that a class declares. -/
def fieldIdsOf (outline : Outline) (id : ClassId) : List FieldId :=
  (outline.class? id).elim [] Class.fields

/-- A finished outline records some transcript. -/
theorem Finished.exists_records
    (finished : outline.Finished) :
    ∃ transcript, outline.Records transcript := by
  obtain ⟨transcript, draft, built, result⟩ := finished
  obtain ⟨valid, types, typed, rfl⟩ := built.coherent.valid_of_finish result
  exact ⟨transcript, built.records valid typed⟩

namespace Records

variable {transcript : Transcript}

theorem isSome_field?
    (records : outline.Records transcript)
    {id : ClassId}
    {field : FieldId}
    (member : field ∈ outline.fieldIdsOf id) :
    (outline.field? field).isSome := by
  cases isFound : outline.class? id with
  | none =>
      rw [fieldIdsOf, isFound] at member
      exact absurd member List.not_mem_nil
  | some found =>
      rw [fieldIdsOf, isFound] at member
      have paired : (field, outline.field? field) ∈
          (transcript.fieldCalls id).map fun call => (call.1, some call.2) :=
        records.fields_of_class? isFound ▸ List.mem_map_of_mem member
      obtain ⟨call, _, equal⟩ := List.mem_map.1 paired
      rw [← (Prod.mk.inj equal).2]
      rfl

/-- No field is missing from the fields of a class. -/
theorem map_field?
    (records : outline.Records transcript)
    (id : ClassId) :
    (outline.fieldIdsOf id).map outline.field? = (outline.fieldsOf id).map some := by
  rw [fieldsOf, ← fieldIdsOf, List.map_filterMap_some_eq_filter_map_isSome, List.filter_eq_self.2]
  exact List.forall_mem_map.2 fun field member => records.isSome_field? member

theorem mem_fieldIdsOf
    {id : ClassId}
    {field : FieldId} :
    field ∈ outline.fieldIdsOf id ↔
      ∃ found, outline.class? id = some found ∧ field ∈ found.fields := by
  unfold fieldIdsOf
  cases outline.class? id <;> simp

/-- Each field is one of the fields of one class. -/
theorem perm_fieldIds
    (records : outline.Records transcript) :
    (outline.classIds.flatMap outline.fieldIdsOf).Perm outline.fieldIds := by
  have exists_of_mem : ∀ {id field}, field ∈ outline.fieldIdsOf id →
      field.index < outline.fields.length := by
    intro id field member
    have isSome := records.isSome_field? member
    by_contra outside
    rw [field?, List.getElem?_eq_none (by omega)] at isSome
    cases isSome
  refine (List.perm_ext_iff_of_nodup ?_ ?_).2 fun field => ?_
  · rw [List.nodup_flatMap]
    constructor
    · intro id isClass
      obtain ⟨found, isFound, _⟩ := records.definition id isClass
      rw [fieldIdsOf, isFound]
      exact records.once id isClass found isFound
    · refine outline.nodup_classIds.imp_of_mem fun {left right} isLeft isRight different => ?_
      intro field inLeft inRight
      obtain ⟨_, _, unique⟩ := records.owner field (exists_of_mem inLeft)
      apply different
      exact (unique left ⟨isLeft, mem_fieldIdsOf.1 inLeft⟩).trans
        (unique right ⟨isRight, mem_fieldIdsOf.1 inRight⟩).symm
  · exact List.nodup_range.map fun _ _ => congrArg FieldId.index
  · rw [List.mem_flatMap, fieldIds, List.mem_map]
    constructor
    · rintro ⟨id, _, member⟩
      exact ⟨field.index, List.mem_range.2 (exists_of_mem member), rfl⟩
    · rintro ⟨index, bound, rfl⟩
      obtain ⟨id, ⟨isClass, member⟩, _⟩ := records.owner ⟨index⟩ (List.mem_range.1 bound)
      exact ⟨id, isClass, mem_fieldIdsOf.2 member⟩

end Records

/-! ## Signatures -/

/-- A way through an outline that comes to each class once and to each field once. -/
structure Enumeration (outline : Outline) (groups : List PackageNests) : Prop where
  /-- There is a group for every package, a nest for every class at the top of it, and in every nest
  a nest for every class nested directly in its class. -/
  goesThrough : outline.GoesThrough groups
  /-- The same groups come about when each class at the top is put into the group of its package. -/
  grouped : groups.map (fun group => (group.package, group.nests.map Nest.id)) =
    outline.grouped.toList
  /-- The packages are those that have classes at the top. -/
  packages : ∀ package, package ∈ outline.packageNames ↔
    ∃ id ∈ outline.topLevel, outline.packageNameOf? id = some package
  /-- Packages ascend strictly by the octets of their names. -/
  ascending : (outline.packageNames.map Text.Utf8.encode).Pairwise fun left right => left < right
  /-- Classes at the top of a package are in the order of creation. -/
  top_sorted : ∀ package, (outline.topLevelOf package).Pairwise fun first second =>
    first.index < second.index
  /-- The classes nested directly in a class are those that it is directly around. -/
  mem_nested : ∀ outer inner, inner ∈ outline.nested outer ↔ outline.enclosing? inner = some outer
  /-- They are in the order of creation. -/
  nested_sorted : ∀ outer, (outline.nested outer).Pairwise fun first second =>
    first.index < second.index
  /-- Each class is in one nest, and there once. -/
  classes : (groups.flatMap PackageNests.ids).Perm outline.classIds
  /-- Each field is one of the fields of one of these classes. -/
  fields : ((groups.flatMap PackageNests.ids).flatMap outline.fieldIdsOf).Perm outline.fieldIds
  /-- None of them is missing from what is shown of a class. -/
  shown_fields : ∀ id, (outline.fieldIdsOf id).map outline.field? = (outline.fieldsOf id).map some

end Outline
end SchemaBinding
